import ShellFlow.Text.Lines

/-!
# Paths

The name of a file or directory: a number of slashes in front and the components after them. Empty
components and `.` are dropped when a path is read, `..` is kept, so a path has one written form.
-/

namespace ShellFlow

/-- A path, absolute if it has slashes in front. -/
structure Path where
  /-- The slashes in front: none, one, or exactly two. -/
  slashes : Nat
  components : List String
  deriving DecidableEq, Repr

namespace Path

/-- The pieces between slashes: one more than there are slashes. -/
def cutAtSlashes : List Char → List (List Char)
  | [] => [[]]
  | c :: rest =>
    if c = '/' then [] :: cutAtSlashes rest
    else
      match cutAtSlashes rest with
      | [] => [[c]]
      | piece :: pieces => (c :: piece) :: pieces

/-- The slashes that count in front of a text: two if there are exactly two, else at most one. -/
def leadingSlashes (cs : List Char) : Nat :=
  match (cs.takeWhile (· == '/')).length with
  | 0 => 0
  | 2 => 2
  | _ => 1

/-- True of a piece that says where to go. -/
def isComponent (piece : String) : Bool := !(piece == "") && !(piece == ".")

def ofText (text : String) : Path where
  slashes := leadingSlashes text.toList
  components := ((cutAtSlashes text.toList).map String.ofList).filter isComponent

/-- True of a path that starts at the root. -/
def isAbsolute (path : Path) : Bool := !(path.slashes == 0)

/-- The written form: a dot for the path that goes nowhere. -/
def text (path : Path) : String :=
  if path.slashes = 0 && path.components.isEmpty then "."
  else String.ofList (List.replicate path.slashes '/') ++ "/".intercalate path.components

/-- The last component, empty if there is none. -/
def name (path : Path) : String := path.components.getLastD ""

/-- True of a path with a NUL in it, which no file system takes. -/
def hasNul (path : Path) : Bool :=
  path.components.any fun component => component.toList.contains '\x00'

/-- The same path with another last component. -/
def withName (path : Path) (name : String) : Path :=
  { path with components := path.components.dropLast ++ [name] }

/-- A name cut before its last dot: nothing is cut off unless something stands on both
sides of it. -/
def splitName (name : String) : String × String :=
  let tail := (name.toList.reverse.takeWhile (· != '.')).reverse
  let front := name.toList.take (name.toList.length - tail.length - 1)
  if tail.isEmpty || front.isEmpty then (name, "")
  else (String.ofList front, String.ofList ('.' :: tail))

/-- The last component from its last dot on. -/
def suffix (path : Path) : String := (splitName path.name).2

/-- The last component before its last dot. -/
def stem (path : Path) : String := (splitName path.name).1

/-- Goes one step further: to the parent on `..`, at the root to the root. -/
def step (place : List String) (component : String) : List String :=
  if component = ".." then place.dropLast else place ++ [component]

/-- The place of a path, from the root on, for one who stands at `here`. -/
def resolve (here : List String) (path : Path) : List String :=
  path.components.foldl step (if path.isAbsolute then [] else here)

/-- The absolute path of a place. -/
def ofPlace (place : List String) : Path := ⟨1, place⟩

end Path

end ShellFlow

import ShellFlow.Failure
import ShellFlow.OrderedMap
import ShellFlow.Path

/-!
# File trees

The files that a command can see, by their places. A place is the list of components from the root
to a file; every proper beginning of it is a directory, and so are the current directory and the
users' homes with all that is above them. There are no links. Names and paths have a greatest
length.

## Main statements

* `contents?_put`: a file that was put in place is read back, and no other file changes.
* `contents?_write`: what was written to a path stands at the place that it leads to, and no other
  file changes.
-/

namespace ShellFlow

/-- Files by their places, seen from a current directory. -/
structure FileTree (α : Type) where
  /-- The place of the current directory. -/
  here : List String
  files : OrderedMap (List String) α
  /-- The home directory of each user; the one of the present user stands under the empty name. -/
  homes : OrderedMap String (List String) := ∅

namespace FileTree

variable {α : Type}

/-- What the file at a place holds. -/
def contents? (tree : FileTree α) (place : List String) : Option α := tree.files.get? place

/-- True of the places on the way to a file, to the current directory and to the homes. -/
def isDirectory (tree : FileTree α) (place : List String) : Bool :=
  place.isPrefixOf tree.here
    || tree.homes.values.any place.isPrefixOf
    || tree.files.keys.any fun file => place.isPrefixOf file && decide (place ≠ file)

/-- True of the places where there is a file or a directory. -/
def contains (tree : FileTree α) (place : List String) : Bool :=
  (tree.contents? place).isSome || tree.isDirectory place

def start (tree : FileTree α) (path : Path) : List String :=
  if path.isAbsolute then [] else tree.here

/-- The number of bytes that a name may have. -/
def nameLimit : Nat := 255

/-- The number of bytes that a path may have. -/
def pathLimit : Nat := 4095

/-- Follows components one by one, each of them from a directory. -/
def walk (tree : FileTree α) (place : List String) :
    List String → Except AccessProblem (List String)
  | [] => .ok place
  | component :: rest =>
    -- a parent is that of the place reached, which therefore has to be there
    if tree.isDirectory place then
      if component.utf8ByteSize > nameLimit then .error .nameTooLong
      else tree.walk (Path.step place component) rest
    else if (tree.contents? place).isSome then .error .notDirectory
    else .error .missing

/-- The place that a path leads to; nothing need be there, but there is a directory before it. -/
def follow (tree : FileTree α) (path : Path) : Except AccessProblem (List String) :=
  if path.text.utf8ByteSize > pathLimit then .error .nameTooLong
  else tree.walk (tree.start path) path.components

/-- Whether a path leads to a file or a directory. One with a NUL leads nowhere; one that is too
long cannot be looked up. -/
def has (tree : FileTree α) (path : Path) : Except Failure Bool :=
  if path.hasNul then .ok false
  else
    match tree.follow path with
    | .ok place => .ok (tree.contains place)
    | .error .nameTooLong => .error (.inaccessible path.text .nameTooLong)
    | .error _ => .ok false

/-- True of a path that leads to a directory. -/
def hasDirectory (tree : FileTree α) (path : Path) : Bool :=
  match tree.follow path with
  | .ok place => tree.isDirectory place
  | .error _ => false

/-- The names of what is in the current directory. -/
def names (tree : FileTree α) : List String :=
  (tree.files.keys.filterMap fun file =>
    if tree.here.isPrefixOf file then (file.drop tree.here.length).head? else none).eraseDups

def put (tree : FileTree α) (place : List String) (content : α) : FileTree α :=
  { tree with files := tree.files.insert place content }

/-- Writes a file, which replaces the one that was there. -/
def write (tree : FileTree α) (path : Path) (content : α) : Except Failure (FileTree α) :=
  match tree.follow path with
  | .error problem => .error (.inaccessible path.text problem)
  | .ok place =>
    if tree.isDirectory place then .error (.inaccessible path.text .directory)
    else .ok (tree.put place content)

theorem contents?_put (tree : FileTree α) (place other : List String) (content : α) :
    (tree.put place content).contents? other =
      if place = other then some content else tree.contents? other := by
  simp [put, contents?, OrderedMap.get?_insert]

theorem contents?_write {tree after : FileTree α} {path : Path} {content : α}
    (h : tree.write path content = .ok after) :
    ∃ place, tree.follow path = .ok place ∧ ∀ other, after.contents? other =
      if place = other then some content else tree.contents? other := by
  unfold write at h
  cases hfollow : tree.follow path with
  | error problem =>
    rw [hfollow] at h
    cases h
  | ok place =>
    rw [hfollow] at h
    dsimp only at h
    split at h
    · cases h
    · cases h
      exact ⟨place, rfl, fun other => contents?_put tree place other content⟩

end FileTree

end ShellFlow

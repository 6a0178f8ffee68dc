import ShellFlow.Binary64
import ShellFlow.Reference

/-!
# Values

The values that inputs, executors and settings of a job can have. Nothing is known of them when a
workflow is described, so there is one type for all of them: plain data, references to values of the
running script, and objects that a workflow file brings along.
-/

namespace ShellFlow

/-- A value of any kind. -/
inductive Value where
  /-- The absent value. -/
  | null
  | bool (b : Bool)
  | int (i : Int)
  | float (x : Binary64)
  | text (s : String)
  | list (items : List Value)
  | tuple (items : List Value)
  /-- A mapping, as its entries in the order in which the keys came in. -/
  | mapping (entries : List (Value × Value))
  /-- A path in the file system. -/
  | path (s : String)
  /-- A string of bytes, given by its ASCII text. -/
  | bytes (s : String)
  /-- Some other object. The mark tells it apart from every other one; the text is how
  it is shown. -/
  | object (mark : Nat) (text : String)
  /-- An instance of a named structure with named fields. The mark tells the structure apart from
  others of that name. -/
  | struct (mark : Nat) (name : String) (fields : List (String × Value))
  /-- The mark of an input without a default. -/
  | noDefault
  | reference (r : Reference)
  deriving Inhabited

/-- What something is called, or a text about it. It is meant to be a text, but any value does until
it has to become part of a shell variable. -/
abbrev Label := Value

namespace Value

def text? : Value → Option String
  | .text s => some s
  | _ => none

theorem text?_eq_some_iff {v : Value} {s : String} : v.text? = some s ↔ v = .text s := by
  cases v <;> simp [text?]

/-- The text of a value that is a text or a string of bytes. -/
def readable? : Value → Option String
  | .text s => some s
  | .bytes s => some s
  | _ => none

/-- True of a reference. -/
def isReference : Value → Bool
  | .reference _ => true
  | _ => false

/-- True of a bare floating point value that is no number. -/
def isNan : Value → Bool
  | .float x => x.isNan
  | _ => false

/-- True of the absent value. -/
def isNull : Value → Bool
  | .null => true
  | _ => false

theorem isNull_eq_true_iff {v : Value} : v.isNull = true ↔ v = .null := by
  cases v <;> simp [isNull]

/-- True of the mark of an input without a default. -/
def isNoDefault : Value → Bool
  | .noDefault => true
  | _ => false

/-- True of a text. -/
def isText : Value → Bool
  | .text _ => true
  | _ => false

/-- Whether a value counts as true: zero, and what is empty or absent, does not. -/
def isTruthy : Value → Bool
  | .null => false
  | .bool b => b
  | .int i => i != 0
  | .float x => !x.isZero
  | .text s => !s.isEmpty
  | .list items => !items.isEmpty
  | .tuple items => !items.isEmpty
  | .mapping entries => !entries.isEmpty
  | .path _ => true
  | .bytes s => !s.isEmpty
  | .object _ _ => true
  | .struct .. => true
  | .noDefault => false
  | .reference _ => true

/-- The name of the kind of a value, as messages give it. -/
def kindName : Value → String
  | .null => "NoneType"
  | .bool _ => "bool"
  | .int _ => "int"
  | .float _ => "float"
  | .text _ => "str"
  | .list _ => "list"
  | .tuple _ => "tuple"
  | .mapping _ => "dict"
  | .path _ => "PurePosixPath"
  | .bytes _ => "bytes"
  | .object _ _ => "Opaque"
  | .struct _ name _ => name
  | .noDefault => "_NoDefault"
  | .reference r => r.kindName

def ofTexts (texts : List String) : Value := .list (texts.map .text)

end Value

end ShellFlow

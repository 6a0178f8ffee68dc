import ShellFlow.Failure
import ShellFlow.Json.Basic
import ShellFlow.Value.Equality

/-!
# Values as plain data

What becomes of a value in an engine record. References become tagged objects, paths their texts,
tuples arrays, and mappings objects whose keys are shown as text. An instance of a structure becomes
the object of its fields; inside of it references are plain objects of their fields, without a tag.
Everything else is shown as text.
-/

namespace ShellFlow

namespace Json

/-- The object of a reference, with the tag of its kind or without it. -/
def ofReference (tagged : Bool) (r : Reference) : Json :=
  let fields := r.fields.map fun f => (f.1, Json.text f.2)
  .object (if tagged then ("ref", .text r.tag) :: fields else fields)

/-- The value that plain data is. -/
def toValue : Json → Value
  | .null => .null
  | .bool b => .bool b
  | .int i => .int i
  | .float x => .float x
  | .text s => .text s
  | .array items => .list (itemsToValues items)
  | .object fields => .mapping (fieldsToEntries fields)
where
  /-- The values of the items of an array. -/
  itemsToValues : List Json → List Value
    | [] => []
    | item :: rest => toValue item :: itemsToValues rest
  /-- The entries of the fields of an object. -/
  fieldsToEntries : List (String × Json) → List (Value × Value)
    | [] => []
    | (key, value) :: rest => (.text key, toValue value) :: fieldsToEntries rest

end Json

namespace Value

mutual

/-- True of a reference, and of a tuple with a reference at any depth. -/
def keyHoldsReference : Value → Bool
  | .reference _ => true
  | .tuple items => anyKeyHoldsReference items
  | _ => false
termination_by structural key => key

/-- True if one of the items holds a reference. -/
def anyKeyHoldsReference : List Value → Bool
  | [] => false
  | item :: rest => keyHoldsReference item || anyKeyHoldsReference rest
termination_by structural items => items

end

/-- Refuses a key that would itself become an object, as references inside of a structure do. -/
def checkKey (tagged : Bool) (key : Value) : Except Failure Unit :=
  if !tagged && key.keyHoldsReference then .error (.unsuitable "unhashable type: 'dict'")
  else .ok ()

mutual

/-- A value as plain data; `tagged` says whether references get a tag. -/
def toJsonWith (tagged : Bool) : Value → Except Failure Json
  | .null => .ok .null
  | .bool b => .ok (.bool b)
  | .int i => .ok (.int i)
  | .float x => .ok (.float x)
  | .text s => .ok (.text s)
  | .reference r => .ok (Json.ofReference tagged r)
  | .path s => .ok (.text s)
  | .list items => do .ok (.array (← itemsToJson tagged items))
  | .tuple items => do .ok (.array (← itemsToJson tagged items))
  | .mapping entries => do .ok (.object (Assoc.dedup (← entriesToJson tagged entries)))
  | .struct _ _ fields => do .ok (.object (Assoc.dedup (← fieldsToJson fields)))
  | .bytes s => .ok (.text (Value.bytes s).display)
  | .object mark shown => .ok (.text (Value.object mark shown).display)
  | .noDefault => .ok (.text Value.noDefault.display)
termination_by structural v => v

/-- The items of a list as plain data. -/
def itemsToJson (tagged : Bool) : List Value → Except Failure (List Json)
  | [] => .ok []
  | item :: rest => do
    let j ← toJsonWith tagged item
    .ok (j :: (← itemsToJson tagged rest))
termination_by structural items => items

/-- The entries of a mapping as fields, each key as text. -/
def entriesToJson (tagged : Bool) : List (Value × Value) → Except Failure (List (String × Json))
  | [] => .ok []
  | (key, value) :: rest => do
    checkKey tagged key
    let j ← toJsonWith tagged value
    .ok ((key.display, j) :: (← entriesToJson tagged rest))
termination_by structural entries => entries

/-- The fields of a structure instance as plain data. -/
def fieldsToJson : List (String × Value) → Except Failure (List (String × Json))
  | [] => .ok []
  | (name, value) :: rest => do
    let j ← toJsonWith false value
    .ok ((name, j) :: (← fieldsToJson rest))
termination_by structural fields => fields

end

/-- A value as plain data. -/
def toJson (v : Value) : Except Failure Json := toJsonWith true v

end Value

end ShellFlow

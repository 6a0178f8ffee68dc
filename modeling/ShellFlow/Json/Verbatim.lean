import ShellFlow.Json.OfValue

/-!
# Values that are passed on as they are

Names and descriptions are not made plain data before they come into an engine record. They are
meant to be texts; of other values, bytes are written as a text, instances of structures and
references as objects of their fields, and a path or an object that nothing is known of has no text
at all. Keys are written as texts, those of a tuple with commas between them, and keys that are
written alike all stay; a key that is no finite number is written like the absent value.

What is written must not be too deep. The first thing on the way that is too deep or has no text is
the one that is reported.
-/

namespace ShellFlow.Value

/-- The full name of the kind of the values that have no text, and none of any other. -/
def unwritableKind? : Value → Option String
  | .path _ => some "pathlib.PurePosixPath"
  | .object _ _ => some "__main__.Opaque"
  | .noDefault => some "typedci.types._NoDefault"
  | _ => none

/-- What is said of a kind that has no text. -/
def unwritableText (kind : String) : String :=
  "Unable to serialize unknown type: <class '" ++ kind ++ "'>"

/-- The failure of writing something deeper than `Json.depthLimit`. -/
def tooDeep : Failure :=
  .unwritableRecord "Error serializing to JSON: ValueError: Maximum serialization depth exceeded"

mutual

def verbatimKey : Value → Except Failure String
  | .bool true => .ok "true"
  | .bool false => .ok "false"
  | .float (.nan _) | .float (.infinity _) => .ok Value.null.display
  | .bytes s => .ok s
  | .tuple items => do .ok (",".intercalate (← verbatimKeyItems items))
  | v =>
    match v.unwritableKind? with
    | some kind =>
      .error (.unwritableRecord
        ("Error serializing to JSON: PydanticSerializationError: " ++ unwritableText kind))
    | none => .ok v.display
termination_by structural key => key

def verbatimKeyItems : List Value → Except Failure (List String)
  | [] => .ok []
  | item :: rest => do
    let s ← verbatimKey item
    .ok (s :: (← verbatimKeyItems rest))
termination_by structural items => items

end

mutual

/-- A value that is passed on as it is and stands at a depth. -/
def verbatimAt (depth : Nat) (value : Value) : Except Failure Json :=
  if Json.depthLimit < depth then .error tooDeep
  else
    match value with
    | .null => .ok .null
    | .bool b => .ok (.bool b)
    | .int i => .ok (.int i)
    | .float x => .ok (.float x)
    | .text s => .ok (.text s)
    | .bytes s => .ok (.text s)
    | .reference r =>
      -- its fields stand one level deeper
      if depth < Json.depthLimit then .ok (Json.ofReference false r) else .error tooDeep
    | .list items => do .ok (.array (← verbatimItems (depth + 1) items))
    | .tuple items => do .ok (.array (← verbatimItems (depth + 1) items))
    | .mapping entries => do .ok (.object (← verbatimEntries (depth + 1) entries))
    | .struct _ _ fields => do .ok (.object (← verbatimFields (depth + 1) fields))
    | v => .error (.unwritableRecord (unwritableText (v.unwritableKind?.getD v.kindName)))
termination_by structural value

def verbatimItems (depth : Nat) : List Value → Except Failure (List Json)
  | [] => .ok []
  | item :: rest => do
    let j ← verbatimAt depth item
    .ok (j :: (← verbatimItems depth rest))
termination_by structural items => items

def verbatimEntries (depth : Nat) :
    List (Value × Value) → Except Failure (List (String × Json))
  | [] => .ok []
  | (key, value) :: rest => do
    let s ← verbatimKey key
    let j ← verbatimAt depth value
    .ok ((s, j) :: (← verbatimEntries depth rest))
termination_by structural entries => entries

/-- The fields of a structure instance, as they are. -/
def verbatimFields (depth : Nat) :
    List (String × Value) → Except Failure (List (String × Json))
  | [] => .ok []
  | (name, value) :: rest => do
    let j ← verbatimAt depth value
    .ok ((name, j) :: (← verbatimFields depth rest))
termination_by structural fields => fields

end

/-- A value that is passed on as it is. -/
def verbatim (value : Value) : Except Failure Json := verbatimAt 1 value

end ShellFlow.Value

import ShellFlow.OrderedMap
import ShellFlow.Value.Equality
import ShellFlow.Value.Items

/-!
# Mappings of values

A mapping is made of pairs of a key and a value. A key must be of a kind that never changes: lists,
mappings and instances of structures are none, nor is a tuple with one of these at any depth. What
is read as a mapping is one, or has items of two items each.
-/

namespace ShellFlow.Value

/-! ## Keys -/

mutual

/-- The first part of a value for which it cannot be a key. -/
def changeablePart? : Value → Option Value
  | .list items => some (.list items)
  | .mapping entries => some (.mapping entries)
  | .struct mark name fields => some (.struct mark name fields)
  | .tuple items => changeableItem? items
  | _ => none
termination_by structural v => v

/-- The first such part of the items of a tuple. -/
def changeableItem? : List Value → Option Value
  | [] => none
  | item :: rest => (changeablePart? item).or (changeableItem? rest)
termination_by structural items => items

end

/-- Refuses a value that cannot be a key. -/
def checkFixed (v : Value) : Except Failure Unit :=
  match v.changeablePart? with
  | some part => .error (.unsuitable ("unhashable type: '" ++ part.kindName ++ "'"))
  | none => .ok ()

/-! ## Entries -/

/-- Replaces what stands under the same key, or appends an entry. -/
def insertEntry {α : Type} (key : Value) (a : α) : List (Value × α) → List (Value × α)
  | [] => [(key, a)]
  | (k, old) :: rest =>
    if same k key then (k, a) :: rest else (k, old) :: insertEntry key a rest

/-- The entries of a list of pairs in which a repeated key keeps its first place and takes what
stands under it last. -/
def collectEntries {α : Type} (entries : List (Value × α)) : Except Failure (List (Value × α)) := do
  for entry in entries do
    checkFixed entry.1
  .ok (entries.foldl (fun acc e => insertEntry e.1 e.2 acc) [])

/-- The mapping of a list of pairs. -/
def ofEntries (entries : List (Value × Value)) : Except Failure Value :=
  (collectEntries entries).map .mapping

def namedEntries (m : OrderedMap String Value) : List (Value × Value) :=
  m.entries.map fun e => (.text e.1, e.2)

/-! ## Values as mappings -/

/-- The two items of a value at a position among others. -/
def pairAt (position : Nat) (v : Value) : Except Failure (Value × Value) :=
  let place := "dictionary update sequence element #" ++ toString position
  match v.items with
  | .error _ => .error (.unsuitable ("cannot convert " ++ place ++ " to a sequence"))
  | .ok [key, value] => .ok (key, value)
  | .ok items =>
    .error (.invalidArgument
      (place ++ " has length " ++ toString items.length ++ "; 2 is required"))

/-- The pairs that values are, from a position on, put into entries one by one. -/
def insertPairs (position : Nat) (entries : List (Value × Value)) :
    List Value → Except Failure (List (Value × Value))
  | [] => .ok entries
  | v :: rest => do
    let (key, value) ← v.pairAt position
    checkFixed key
    insertPairs (position + 1) (insertEntry key value entries) rest

/-- The entries of a value that is read as a mapping, none if it counts as false. -/
def entriesOrNone (v : Value) : Except Failure (List (Value × Value)) :=
  if !v.isTruthy then .ok []
  else
    match v with
    | .mapping entries => .ok entries
    | v => do insertPairs 0 [] (← v.items)

end ShellFlow.Value

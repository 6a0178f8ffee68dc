import ShellFlow.Failure

/-!
# Values as lists

Where a list of values is expected, a tuple, a mapping (its keys), a text (its characters) and bytes
(their numbers) are taken as well. Some places take whatever counts as false for the empty list.
Values that are joined to one text have to be texts.
-/

namespace ShellFlow.Value

def items : Value → Except Failure (List Value)
  | .list items => .ok items
  | .tuple items => .ok items
  | .mapping entries => .ok (entries.map Prod.fst)
  | .text s => .ok (s.toList.map fun c => .text c.toString)
  | .bytes s => .ok (s.toList.map fun c => .int c.toNat)
  | v => .error (.unsuitable ("'" ++ v.kindName ++ "' object is not iterable"))

def size (v : Value) : Except Failure Nat :=
  match v.items with
  | .ok items => .ok items.length
  | .error _ => .error (.unsuitable ("object of type '" ++ v.kindName ++ "' has no len()"))

/-- The items of a value, none if it counts as false. -/
def itemsOrNone (v : Value) : Except Failure (List Value) :=
  if v.isTruthy then v.items else .ok []

/-- The text of a value that is joined with others, among which it has a position. -/
def joinedText (position : Nat) : Value → Except Failure String
  | .text s => .ok s
  | v =>
    .error (.unsuitable ("sequence item " ++ toString position ++ ": expected str instance, "
      ++ v.kindName ++ " found"))

/-- The texts of values that are joined, the first of them at a position. -/
def joinedTexts (position : Nat) : List Value → Except Failure (List String)
  | [] => .ok []
  | v :: rest => do
    let s ← v.joinedText position
    .ok (s :: (← joinedTexts (position + 1) rest))

end ShellFlow.Value

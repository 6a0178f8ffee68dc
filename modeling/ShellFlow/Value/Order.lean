import ShellFlow.Path
import ShellFlow.Value.Equality

/-!
# Order of values

Numbers of all kinds have one order, and so have the texts, the bytes, the paths, the lists and the
tuples, each among themselves; other values cannot be put in order. A value that is no number is
neither less nor greater than any other.

Values are sorted stably: a first run that is in order already stays as it is, or is turned round if
it descends, and each later value is put after all that are not greater, at a place that is found by
halving. Which two values are compared shows when they have no order.
-/

namespace ShellFlow

/-- Two kinds of values that have no order. -/
structure Unordered where
  left : String
  right : String
  deriving DecidableEq, Repr

/-- What is said of two kinds without an order. -/
def Unordered.message (e : Unordered) : String :=
  "'<' not supported between instances of '" ++ e.left ++ "' and '" ++ e.right ++ "'"

/-- A number of any kind, by its value. -/
inductive Magnitude where
  | finite (numerator : Int) (denominator : Nat)
  | infinite (negative : Bool)
  | undefined

/-- True if the first number is less than the second. -/
def Magnitude.lt : Magnitude → Magnitude → Bool
  | .finite a b, .finite c d => a * d < c * b
  | .finite _ _, .infinite negative => !negative
  | .infinite negative, .finite _ _ => negative
  | .infinite m, .infinite n => m && !n
  | .undefined, _ => false
  | _, .undefined => false

/-- The value of a double. -/
def Binary64.magnitude : Binary64 → Magnitude
  | .nan _ => .undefined
  | .infinity negative => .infinite negative
  | .finite negative m e =>
    let (num, den) := fraction m e
    .finite (if negative then -(num : Int) else num) den

namespace Value

/-- The number that a value is or counts as. -/
def magnitude? : Value → Option Magnitude
  | .bool b => some (.finite (ofBool b) 1)
  | .int i => some (.finite i 1)
  | .float x => some x.magnitude
  | _ => none

/-- The parts by which a path is put in order: the slashes in front, then the components. -/
def pathParts (s : String) : List String :=
  let path := Path.ofText s
  (if path.isAbsolute then [String.ofList (List.replicate path.slashes '/')] else [])
    ++ path.components

mutual

/-- Whether a value is less than another one. -/
def lt : Value → Value → Except Unordered Bool
  | .text s, .text t => .ok (decide (s < t))
  | .bytes s, .bytes t => .ok (decide (s < t))
  | .path s, .path t => .ok (decide (pathParts s < pathParts t))
  | .list xs, .list ys => ltItems xs ys
  | .tuple xs, .tuple ys => ltItems xs ys
  | x, y =>
    match x.magnitude?, y.magnitude? with
    | some a, some b => .ok (a.lt b)
    | _, _ => .error ⟨x.kindName, y.kindName⟩
termination_by structural x => x

/-- Whether some items are less than others: the first two that differ decide. -/
def ltItems : List Value → List Value → Except Unordered Bool
  | [], ys => .ok (!ys.isEmpty)
  | _ :: _, [] => .ok false
  | x :: xs, y :: ys => if same x y then ltItems xs ys else lt x y
termination_by structural xs => xs

end

/-! ## Sorting -/

/-- The values that go on in the direction of a run, seen from its last one, and those after
them. -/
def takeRun (descending : Bool) (last : Value) :
    List Value → Except Unordered (List Value × List Value)
  | [] => .ok ([], [])
  | v :: rest => do
    if (← lt v last) == descending then
      let (run, others) ← takeRun descending v rest
      .ok (v :: run, others)
    else .ok ([], v :: rest)

/-- The longest run at the front, in ascending order, and the values after it. -/
def firstRun : List Value → Except Unordered (List Value × List Value)
  | a :: b :: rest => do
    let descending ← lt b a
    let (run, others) ← takeRun descending b rest
    .ok (if descending then (a :: b :: run).reverse else a :: b :: run, others)
  | short => .ok (short, [])

/-- The place of a value between two places of a sorted list: after all that are not greater. -/
def placeOf (sorted : List Value) (v : Value) (low high : Nat) : Except Unordered Nat :=
  if low < high then do
    let middle := low + (high - low) / 2
    if ← lt v (sorted.getD middle .null) then placeOf sorted v low middle
    else placeOf sorted v (middle + 1) high
  else .ok low
termination_by high - low

/-- Puts values into a sorted list, one by one. -/
def insertSorted (sorted : List Value) : List Value → Except Unordered (List Value)
  | [] => .ok sorted
  | v :: rest => do
    let i ← placeOf sorted v 0 sorted.length
    insertSorted (sorted.take i ++ v :: sorted.drop i) rest

def sort (values : List Value) : Except Unordered (List Value) := do
  let (run, others) ← firstRun values
  insertSorted run others

end Value

end ShellFlow

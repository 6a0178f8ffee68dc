import ShellFlow.Failure
import ShellFlow.Shell.Quote

/-!
# Values as shell text

How a value reaches a script. Quoted, every text becomes one word and a reference an expansion in
double quotes; unquoted, texts are left alone and a reference is the bare expansion. Lists are the
texts of their items with one space between them.

An assignment escapes a literal once as a whole and leaves a reference open to expansion. A list
that mixes the two is written as adjacent words with a quoted space between them.

## Main statements

* `toShellItems_eq_mapM`: the items of a list are rendered one by one, in order.
-/

namespace ShellFlow

namespace Value

mutual

/-- The items of lists and tuples at any depth, from left to right; any other value is
its own leaf. -/
def leaves : Value → List Value
  | .list items => leavesOfItems items
  | .tuple items => leavesOfItems items
  | v => [v]
termination_by structural v => v

def leavesOfItems : List Value → List Value
  | [] => []
  | item :: rest => leaves item ++ leavesOfItems rest
termination_by structural items => items

end

/-- True if some leaf is a reference. -/
def containsReference (v : Value) : Bool := v.leaves.any isReference

end Value

namespace Shell

/-- A text, as a word or as it is. -/
def textWord (quoted : Bool) (s : String) : String := if quoted then quote s else s

/-- An expansion, in double quotes or bare. -/
def referenceWord (quoted : Bool) (r : Reference) : String :=
  if quoted then "\"" ++ r.expansion ++ "\"" else r.expansion

mutual

def toShell (quoted : Bool) : Value → Except Failure String
  | .reference r => .ok (referenceWord quoted r)
  | .null => .ok ""
  | .bool true => .ok "true"
  | .bool false => .ok "false"
  | .int i => .ok (toString i)
  | .float x => .ok (Value.floatLayout.write x)
  | .text s => .ok (textWord quoted s)
  | .path s => .ok (textWord quoted s)
  | .list items => do .ok (" ".intercalate (← toShellItems quoted items))
  | .tuple items => do .ok (" ".intercalate (← toShellItems quoted items))
  | v => .error (.unsupportedValueKind v)
termination_by structural v => v

def toShellItems (quoted : Bool) : List Value → Except Failure (List String)
  | [] => .ok []
  | item :: rest => do
    let word ← toShell quoted item
    .ok (word :: (← toShellItems quoted rest))
termination_by structural items => items

end

/-- The word for a leaf of a mixed list; an absent value is the empty word. -/
def leafWord (leaf : Value) : Except Failure String := do
  let word ← toShell true leaf
  .ok (if word.isEmpty then "''" else word)

/-- The right-hand side of an assignment. -/
def assignedWord (value : Value) : Except Failure String :=
  match value with
  | .reference r => .ok r.expansion
  | _ =>
    if value.containsReference then do
      -- the blank is quoted, so that the shell takes the words for one value
      .ok ("' '".intercalate (← value.leaves.mapM leafWord))
    else do
      .ok (quote (← toShell false value))

def assignment (var : String) (value : Value) : Except Failure String := do
  .ok (var ++ "=" ++ (← assignedWord value))

/-- The expansion of a value that must be a reference. -/
def expansion (value : Value) : Except Failure String :=
  match value with
  | .reference r => .ok r.expansion
  | v => .error (.unknownReferenceKind v)

theorem toShellItems_eq_mapM (quoted : Bool) (items : List Value) :
    toShellItems quoted items = items.mapM (toShell quoted) := by
  induction items with
  | nil => rfl
  | cons item rest ih =>
    rw [toShellItems, ih, List.mapM_cons]
    rfl

end Shell

end ShellFlow

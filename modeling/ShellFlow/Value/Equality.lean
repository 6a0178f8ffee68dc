import ShellFlow.Value.Basic

/-!
# Equality of values

Numbers are compared by value across their kinds, with true and false counting as one and zero.
Mappings are compared without regard to order, and a list never equals a tuple. Instances of two
structures differ, whatever their names and fields. A value that is no number differs from itself
where it stands alone; inside of anything else it is the same as itself.
-/

namespace ShellFlow.Value

/-- The number that a truth value counts as. -/
def ofBool (b : Bool) : Int := if b then 1 else 0

mutual

/-- True of two values that are the same inside of a list, a mapping or a record. -/
def same : Value → Value → Bool
  | .null, .null => true
  | .bool a, .bool b => a == b
  | .bool a, .int j => ofBool a == j
  | .bool a, .float y => y.eqvInt (ofBool a)
  | .int i, .bool b => i == ofBool b
  | .int i, .int j => i == j
  | .int i, .float y => y.eqvInt i
  | .float x, .bool b => x.eqvInt (ofBool b)
  | .float x, .int j => x.eqvInt j
  | .float x, .float y => x.same y
  | .text s, .text t => s == t
  | .list xs, .list ys => sameItems xs ys
  | .tuple xs, .tuple ys => sameItems xs ys
  | .mapping xs, .mapping ys => xs.length == ys.length && sameEntries xs ys
  | .path s, .path t => s == t
  | .bytes s, .bytes t => s == t
  | .object m _, .object n _ => m == n
  | .struct m _ xs, .struct n _ ys => m == n && sameFields xs ys
  | .noDefault, .noDefault => true
  | .reference r, .reference q => decide (r = q)
  | _, _ => false
termination_by structural x => x

/-- Sameness of two lists, item by item. -/
def sameItems : List Value → List Value → Bool
  | [], [] => true
  | x :: xs, y :: ys => same x y && sameItems xs ys
  | _, _ => false
termination_by structural xs => xs

/-- True if every entry of the first mapping has the same one in the second. -/
def sameEntries : List (Value × Value) → List (Value × Value) → Bool
  | [], _ => true
  | (k, v) :: rest, ys => (ys.any fun y => same k y.1 && same v y.2) && sameEntries rest ys
termination_by structural xs => xs

/-- Sameness of the fields of two instances of one structure. -/
def sameFields : List (String × Value) → List (String × Value) → Bool
  | [], [] => true
  | (n, x) :: xs, (m, y) :: ys => n == m && same x y && sameFields xs ys
  | _, _ => false
termination_by structural xs => xs

end

/-- Equality of two values: like `same`, but a bare value that is no number equals nothing. -/
def eqv (x y : Value) : Bool := !x.isNan && same x y

end ShellFlow.Value

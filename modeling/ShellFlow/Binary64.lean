/-!
# Double precision numbers

A number of 53 binary digits, or an infinity, or no number at all. A finite one is kept as a
natural mantissa and a power of two, so that comparing, reading and writing are exact arithmetic on
natural numbers.
-/

namespace ShellFlow

/-- A double precision number; a finite one is `± mantissa * 2 ^ exponent`. -/
inductive Binary64 where
  /-- Not a number; it differs from everything, itself included. The payload tells
  one from another. -/
  | nan (payload : Nat)
  /-- One of the two infinities. -/
  | infinity (negative : Bool)
  /-- A finite number. Its mantissa has 53 binary digits, or its exponent is the least one. -/
  | finite (negative : Bool) (mantissa : Nat) (exponent : Int)
  deriving DecidableEq, Repr, Inhabited

namespace Binary64

def minExponent : Int := -1074

def maxExponent : Int := 971

/-- Zero of either sign. -/
def zero (negative : Bool) : Binary64 := .finite negative 0 minExponent

/-- `2 ^ e`, one for negative `e`. -/
def pow2 (e : Int) : Nat := Nat.pow 2 e.toNat

/-- Numerator and denominator of `mantissa * 2 ^ exponent`. -/
def fraction (mantissa : Nat) (exponent : Int) : Nat × Nat :=
  (mantissa * pow2 exponent, pow2 (-exponent))

/-- The whole number nearest to `num / den`; a half goes to the even neighbour. -/
def roundHalfEven (num den : Nat) : Nat :=
  let q := num / den
  let r := num % den
  if 2 * r < den then q
  else if 2 * r = den then q + q % 2
  else q + 1

/-- The exponent at which `num / den` has 53 binary digits, or the least exponent. -/
def exponentOf (num den : Nat) : Int :=
  let l : Int := (Nat.log2 num : Int) - (Nat.log2 den : Int)
  let e := if num * pow2 (-l) < den * pow2 l then l - 53 else l - 52
  max e minExponent

/-- The double nearest to `num / den`; a half goes to the even neighbour, what is too large to
infinity. -/
def nearest (negative : Bool) (num den : Nat) : Binary64 :=
  if num = 0 then zero negative
  else
    let e := exponentOf num den
    let m := roundHalfEven (num * pow2 (-e)) (den * pow2 e)
    -- rounding up may have given a digit too many
    let (m, e) := if m = pow2 53 then (pow2 52, e + 1) else (m, e)
    if e > maxExponent then .infinity negative else .finite negative m e

/-- True of both zeros. -/
def isZero : Binary64 → Bool
  | .finite _ m _ => m == 0
  | _ => false

/-- True of the finite numbers without a fractional part. -/
def isWhole : Binary64 → Bool
  | .finite _ m e => m * pow2 e % pow2 (-e) == 0
  | _ => false

/-- Equality by value: the two zeros are equal and a number that is none equals nothing. -/
def eqv : Binary64 → Binary64 → Bool
  | .nan _, _ => false
  | _, .nan _ => false
  | x, y => decide (x = y) || (x.isZero && y.isZero)

/-- True of two equal numbers, and of a value that is no number and that value itself. -/
def same (x y : Binary64) : Bool := decide (x = y) || x.eqv y

/-- True of a value that is no number. -/
def isNan : Binary64 → Bool
  | .nan _ => true
  | _ => false

/-- The value with a payload, if it is no number. -/
def withPayload (payload : Nat) : Binary64 → Binary64
  | .nan _ => .nan payload
  | x => x

/-- True of the doubles strictly between `-limit` and `limit`. -/
def isWithin (limit : Nat) : Binary64 → Bool
  | .finite _ m e =>
    let (num, den) := fraction m e
    num < limit * den
  | _ => false

/-- Equality of a double and a whole number, by value. -/
def eqvInt : Binary64 → Int → Bool
  | .finite negative m e, i =>
    let (num, den) := fraction m e
    (if negative then -(num : Int) else (num : Int)) == i * (den : Int)
  | _, _ => false

end Binary64

end ShellFlow

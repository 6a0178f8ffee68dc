import ShellFlow.Binary64

/-!
# Shortest decimals

The decimal with the fewest digits that lies in the interval of reals rounding to a given double,
and of those with that many digits the one nearest to the double. The search tries one to seventeen
digits; at each count only the two neighbours of the double on the decimal grid can be in the
interval nearest to it.
-/

namespace ShellFlow.Decimal

/-- A positive decimal, `digits * 10 ^ exponent`. -/
structure Digits where
  digits : Nat
  exponent : Int
  deriving DecidableEq, Repr

/-- `10 ^ e`, one for negative `e`. -/
def pow10 (e : Int) : Nat := Nat.pow 10 e.toNat

def countDigits (n : Nat) : Nat := (Nat.toDigits 10 n).length

/-- The `d` with `10 ^ d ≤ num / den < 10 ^ (d + 1)`, for positive `num` and `den`. -/
def magnitude (num den : Nat) : Int :=
  if den ≤ num then (countDigits (num / den) : Int) - 1
  else -((countDigits ((den + num - 1) / num - 1) : Int))

/--
The reals that round to the double `mantissa * 2 ^ exponent`, as bounds over the denominator `den`.
The lower bound is nearer when the mantissa is the least one of its binade. The bounds themselves
belong to the interval if the mantissa is even.
-/
structure Interval where
  low : Nat
  value : Nat
  high : Nat
  den : Nat
  closed : Bool

/-- The interval of the reals that round to `mantissa * 2 ^ exponent`. -/
def Interval.of (mantissa : Nat) (exponent : Int) : Interval :=
  -- in quarters of the last place all three bounds are whole numbers
  let e := exponent - 2
  let scale := Binary64.pow2 e
  let below := if mantissa = Binary64.pow2 52 && exponent > Binary64.minExponent then 1 else 2
  { low := (4 * mantissa - below) * scale
    value := 4 * mantissa * scale
    high := (4 * mantissa + 2) * scale
    den := Binary64.pow2 (-e)
    closed := mantissa % 2 == 0 }

/-- True if `digits * 10 ^ k` lies in the interval. -/
def Interval.has (i : Interval) (digits : Nat) (k : Int) : Bool :=
  let point := digits * pow10 k * i.den
  let unit := pow10 (-k)
  if i.closed then i.low * unit ≤ point && point ≤ i.high * unit
  else i.low * unit < point && point < i.high * unit

/-- The point of the grid `10 ^ k` in the interval that is nearest to the value. -/
def Interval.onGrid (i : Interval) (k : Int) : Option Digits :=
  let num := i.value * pow10 (-k)
  let den := i.den * pow10 k
  let below := num / den
  let above := below + 1
  let twice := 2 * (num % den)
  match 0 < below && i.has below k, i.has above k with
  | true, true =>
    -- the nearer of the two, and the even one half way between them
    if twice < den || (twice == den && below % 2 == 0) then some ⟨below, k⟩ else some ⟨above, k⟩
  | true, false => some ⟨below, k⟩
  | false, true => some ⟨above, k⟩
  | false, false => none

/-- Moves zeros at the end of the digits into the exponent, at most `fuel` of them. -/
def trim (fuel : Nat) (d : Digits) : Digits :=
  match fuel with
  | 0 => d
  | fuel + 1 =>
    if d.digits % 10 == 0 && 0 < d.digits then trim fuel ⟨d.digits / 10, d.exponent + 1⟩ else d

/-- The shortest decimal that rounds to the positive double `mantissa * 2 ^ exponent`. -/
def shortest (mantissa : Nat) (exponent : Int) : Digits :=
  let i := Interval.of mantissa exponent
  let d := magnitude i.value i.den
  let grids := (List.range 17).map fun (n : Nat) => d - (n : Int)
  trim 20 ((grids.findSome? i.onGrid).getD ⟨mantissa, 0⟩)

end ShellFlow.Decimal

import ShellFlow.Decimal.Shortest

/-!
# Layouts of decimals

How the digits of a number are set out: for which magnitudes a point stands among the digits, how an
exponent is written otherwise, and the texts of the values that are no finite number.
-/

namespace ShellFlow.Decimal

/-- The choices of a number format. -/
structure Layout where
  /-- The least power of ten that is written without an exponent. -/
  positionalFrom : Int
  /-- The first power of ten that is written with an exponent again. -/
  positionalUntil : Int
  /-- The least number of digits of an exponent. -/
  exponentWidth : Nat
  /-- The text of a value that is no number. -/
  nan : String
  /-- The text of the positive infinity. -/
  infinity : String
  /-- The text of the negative infinity. -/
  negativeInfinity : String

namespace Layout

/-- Puts zeros in front of a text until it has `width` characters. -/
def padZeros (width : Nat) (digits : List Char) : List Char :=
  List.replicate (width - digits.length) '0' ++ digits

/-- The digits with a point after the first `whole` of them and a zero where a side is empty. -/
def positional (digits : List Char) (whole : Int) : List Char :=
  if whole ≤ 0 then '0' :: '.' :: (List.replicate (-whole).toNat '0' ++ digits)
  else
    let n := whole.toNat
    if digits.length ≤ n then digits ++ List.replicate (n - digits.length) '0' ++ ['.', '0']
    else digits.take n ++ '.' :: digits.drop n

/-- A signed exponent of at least `exponentWidth` digits. -/
def exponentText (layout : Layout) (e : Int) : List Char :=
  (if e < 0 then '-' else '+') :: padZeros layout.exponentWidth (Nat.toDigits 10 e.natAbs)

/-- One digit, a point and the others if there are others, and the exponent. -/
def scientific (layout : Layout) (digits : List Char) (e : Int) : List Char :=
  match digits with
  | [] => []
  | [d] => d :: 'e' :: layout.exponentText e
  | d :: rest => d :: '.' :: (rest ++ 'e' :: layout.exponentText e)

/-- The characters of a positive decimal. -/
def writeDigits (layout : Layout) (d : Digits) : List Char :=
  let digits := Nat.toDigits 10 d.digits
  let e := d.exponent + (digits.length : Int) - 1
  if layout.positionalFrom ≤ e && e < layout.positionalUntil then positional digits (e + 1)
  else layout.scientific digits e

/-- The text of a double: its shortest digits, laid out. -/
def write (layout : Layout) : Binary64 → String
  | .nan _ => layout.nan
  | .infinity false => layout.infinity
  | .infinity true => layout.negativeInfinity
  | .finite negative m e =>
    let digits := if m = 0 then ['0', '.', '0'] else layout.writeDigits (shortest m e)
    String.ofList (if negative then '-' :: digits else digits)

end Layout

end ShellFlow.Decimal

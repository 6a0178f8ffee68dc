import ShellFlow.Binary64
import ShellFlow.Decimal.Shortest
import ShellFlow.Text.Blank
import ShellFlow.Text.Digit

/-!
# Reading decimals

The double nearest to a decimal text: an optional sign, digits with at most one point, an optional
exponent, or one of the words for infinity and for a value that is no number. Whole numbers are a
sign and digits. The digits of every script are read. Blanks around a number do not count, nor does
an underscore between two digits.
-/

namespace ShellFlow.Decimal

/-- Digits of a number and the number of them. -/
structure DigitRun where
  value : Nat
  count : Nat

/-- Reads digits up to the first other character. -/
def readDigits (run : DigitRun) : List Char → DigitRun × List Char
  | [] => (run, [])
  | c :: rest =>
    if c.isDigit then readDigits ⟨run.value * 10 + (c.toNat - 48), run.count + 1⟩ rest
    else (run, c :: rest)

/-- The characters of a number without the underscores between two digits; `after` says whether a
digit comes before. -/
def dropSeparators (after : Bool) : List Char → List Char
  | '_' :: c :: rest =>
    if after && c.isDigit then c :: dropSeparators true rest
    else '_' :: c :: dropSeparators c.isDigit rest
  | c :: rest => c :: dropSeparators c.isDigit rest
  | [] => []

/-- A character with digits and blanks outside of ASCII replaced by those in it. -/
def plainChar (c : Char) : Char :=
  match Text.digit? c with
  | some d => Nat.digitChar d
  | none => if c.toNat > 127 && Text.isBlank c then ' ' else c

/-- True of the blanks that may stand around a number: the separator controls are none. -/
def isPadding (c : Char) : Bool := c = ' ' || (9 ≤ c.toNat && c.toNat ≤ 13)

/-- The characters that count in the text of a number. -/
def significant (s : String) : List Char :=
  dropSeparators false (Text.dropEnd isPadding ((s.toList.map plainChar).dropWhile isPadding))

/-- Takes a sign; true means negative. -/
def readSign : List Char → Bool × List Char
  | '-' :: rest => (true, rest)
  | '+' :: rest => (false, rest)
  | cs => (false, cs)

/-- The exponent after the digits, zero if there is none. -/
def readExponent? : List Char → Option Int
  | [] => some 0
  | c :: rest =>
    if c = 'e' || c = 'E' then
      let (negative, rest) := readSign rest
      let (run, rest) := readDigits ⟨0, 0⟩ rest
      if run.count = 0 || !rest.isEmpty then none
      else some (if negative then -(run.value : Int) else (run.value : Int))
    else none

/-- The double nearest to `digits * 10 ^ e`, which is known at once when it is far out of range. -/
def scaled (negative : Bool) (run : DigitRun) (e : Int) : Binary64 :=
  -- doubles lie between 10⁻³²⁴ and 10³⁰⁹, so no large power has to be computed
  let magnitude := (run.count : Int) + e
  if run.value = 0 || magnitude < -400 then Binary64.zero negative
  else if e > 400 then .infinity negative
  else Binary64.nearest negative (run.value * pow10 e) (pow10 (-e))

/-- Reads the digits, the point and the exponent of a number without its sign. -/
def readUnsigned? (negative : Bool) (cs : List Char) : Option Binary64 :=
  let (whole, rest) := readDigits ⟨0, 0⟩ cs
  let (run, rest) :=
    match rest with
    | '.' :: rest => readDigits whole rest
    | rest => (whole, rest)
  if run.count = 0 then none
  else (readExponent? rest).map fun e =>
    scaled negative run (e - ((run.count - whole.count : Nat) : Int))

/-- Reads a decimal, or a word for a value that is not finite. -/
def read? (s : String) : Option Binary64 :=
  let (negative, cs) := readSign (significant s)
  let word := String.ofList (cs.map Char.toLower)
  if word = "inf" || word = "infinity" then some (.infinity negative)
  else if word = "nan" then some (.nan 0)
  else readUnsigned? negative cs

/-- Reads a whole number. -/
def readWhole? (s : String) : Option Int :=
  let (negative, cs) := readSign (significant s)
  let (run, rest) := readDigits ⟨0, 0⟩ cs
  if run.count = 0 || !rest.isEmpty then none
  else some (if negative then -(run.value : Int) else (run.value : Int))

end ShellFlow.Decimal

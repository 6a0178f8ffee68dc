import ShellFlow.Text.Printable

/-!
# Quoted literals

A text as it is shown inside messages: in single quotes, or in double quotes when it has a single
quote and no double one. Backslash, the enclosing quote, newline, return and tab are written with a
backslash, and every character that is not printable by its code in hexadecimal.
-/

namespace ShellFlow.Text

/-- The lower case hexadecimal digits of `n`, with zeros in front up to `width`. -/
def hexDigits (width n : Nat) : List Char :=
  let digits := Nat.toDigits 16 n
  List.replicate (width - digits.length) '0' ++ digits

/-- The quote in which a text is shown. -/
def enclosingQuote (cs : List Char) : Char :=
  if cs.contains '\'' && !cs.contains '"' then '"' else '\''

/-- A character as it is written inside a literal in the given quotes. -/
def escapeIn (quote c : Char) : List Char :=
  if c = '\\' || c = quote then ['\\', c]
  else if c = '\n' then ['\\', 'n']
  else if c = '\r' then ['\\', 'r']
  else if c = '\t' then ['\\', 't']
  else if isPrintable c then [c]
  else if c.toNat < 0x100 then '\\' :: 'x' :: hexDigits 2 c.toNat
  else if c.toNat < 0x10000 then '\\' :: 'u' :: hexDigits 4 c.toNat
  else '\\' :: 'U' :: hexDigits 8 c.toNat

def quoted (s : String) : String :=
  let cs := s.toList
  let quote := enclosingQuote cs
  String.ofList (quote :: (cs.flatMap (escapeIn quote) ++ [quote]))

end ShellFlow.Text

import ShellFlow.Text.Ranges

/-!
# Lines

Lists of lines joined by newlines, text cut at newlines, and text cut at every kind of line break.
-/

namespace ShellFlow.Text

/-- The lines with a newline between each two of them. -/
def joinLines (lines : List String) : String := "\n".intercalate lines

/-- The pieces between newlines, on characters: one more than there are newlines. -/
def cutAtNewlines : List Char → List (List Char)
  | [] => [[]]
  | c :: rest =>
    if c = '\n' then [] :: cutAtNewlines rest
    else
      match cutAtNewlines rest with
      | [] => [[c]]
      | line :: lines => (c :: line) :: lines

/-- The pieces between newlines: one more than there are newlines. -/
def splitNewlines (s : String) : List String := (cutAtNewlines s.toList).map String.ofList

/-- Puts `margin` before every line that is not empty. -/
def indentLines (margin : String) (lines : List String) : List String :=
  lines.map fun line => if line.isEmpty then line else margin ++ line

/-- Newline, carriage return, the vertical tab, the form feed, the separators from file to record,
the next-line control and the Unicode line and paragraph separators. -/
def lineBreaks : Ranges := [(10, 13), (28, 30), (133, 133), (8232, 8233)]

/-- True of a character that ends a line. -/
def isLineBreak (c : Char) : Bool := lineBreaks.has c

/-- Cuts after every line break; `current` is the line so far, last character first. A carriage
return with a newline is one break, and a break at the end starts no further line. -/
def breakFrom (current : List Char) : List Char → List String
  | [] => if current.isEmpty then [] else [String.ofList current.reverse]
  | '\r' :: '\n' :: rest => String.ofList current.reverse :: breakFrom [] rest
  | c :: rest =>
    if isLineBreak c then String.ofList current.reverse :: breakFrom [] rest
    else breakFrom (c :: current) rest

def breakLines (s : String) : List String := breakFrom [] s.toList

end ShellFlow.Text

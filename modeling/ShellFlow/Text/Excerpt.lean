/-!
# Excerpts

A long text cut down to its two ends with three dots between them. Lengths are counted in the bytes
that the text has when it is written, and no character is cut in two.
-/

namespace ShellFlow.Text

/-- The characters from the front that fit into a number of bytes. -/
def fitting (bytes : Nat) : List Char → List Char
  | [] => []
  | c :: rest => if c.utf8Size ≤ bytes then c :: fitting (bytes - c.utf8Size) rest else []

/-- A text in at most `limit` bytes besides the dots; the front gets the odd one. -/
def excerpt (limit : Nat) (s : String) : String :=
  if s.utf8ByteSize ≤ limit then s
  else
    let front := (limit + 1) / 2
    let back := (fitting (front - 1) s.toList.reverse).reverse
    String.ofList (fitting front s.toList) ++ "..." ++ String.ofList back

end ShellFlow.Text

/-!
# Shell quoting

A text as one shell word. A text of harmless characters is its own word; any other is put in single
quotes, where a single quote in it closes the quotes, follows in double quotes, and opens them
again.

## Main statements

* `quoteChars_ne_nil`: no word is empty.
-/

namespace ShellFlow.Shell

/-- The characters that need no quotes: ASCII letters and digits, and `-_@%+=:,./`. -/
def isSafe (c : Char) : Bool := c.isAlphanum || "-_@%+=:,./".toList.contains c

/-- The single quote. -/
def mark : Char := '\''

/-- What stands for a single quote inside of single quotes. -/
def escapedMark : List Char := "'\"'\"'".toList

/-- A character inside single quotes. -/
def quoteChar (c : Char) : List Char := if c = mark then escapedMark else [c]

/-- The word for a text, on characters. -/
def quoteChars (cs : List Char) : List Char :=
  if cs.isEmpty then [mark, mark]
  else if cs.all isSafe then cs
  else mark :: (cs.flatMap quoteChar ++ [mark])

/-- The shell word that reads back as `s`. -/
def quote (s : String) : String := String.ofList (quoteChars s.toList)

theorem quoteChars_ne_nil (cs : List Char) : quoteChars cs ≠ [] := by
  unfold quoteChars
  split
  · simp
  · rename_i h
    split
    · intro hcs
      simp [hcs] at h
    · simp

end ShellFlow.Shell

import ShellFlow.Text.Ranges

/-!
# Blanks

The characters that separate words, and the functions that cut text at them: `words` splits at every
run of blanks, `strip` drops them at both ends and `stripEnd` at the end only.

## Main statements

* `isBlank_of_isWhitespace`: every ASCII blank is a blank.
-/

namespace ShellFlow.Text

/-- The characters with the Unicode property White_Space, and the four ASCII separator controls. -/
def blanks : Ranges :=
  [(9, 13), (28, 32), (133, 133), (160, 160), (5760, 5760), (8192, 8202), (8232, 8233),
   (8239, 8239), (8287, 8287), (12288, 12288)]

/-- True of a character that separates words. -/
def isBlank (c : Char) : Bool := blanks.has c

theorem isBlank_of_isWhitespace {c : Char} (h : c.isWhitespace = true) : isBlank c = true := by
  simp only [Char.isWhitespace, Bool.or_eq_true, decide_eq_true_eq] at h
  rcases h with ((h | h) | h) | h <;> subst h <;> decide

/-- Splits at runs of blanks; `current` is the word so far, last character first. -/
def wordsFrom (current : List Char) : List Char → List String
  | [] => if current.isEmpty then [] else [String.ofList current.reverse]
  | c :: rest =>
    if isBlank c then
      if current.isEmpty then wordsFrom [] rest
      else String.ofList current.reverse :: wordsFrom [] rest
    else wordsFrom (c :: current) rest

/-- The maximal runs of characters that are not blank. -/
def words (s : String) : List String := wordsFrom [] s.toList

/-- Drops the characters at the end that pass the test. -/
def dropEnd (p : Char → Bool) (cs : List Char) : List Char := (cs.reverse.dropWhile p).reverse

def stripEnd (s : String) : String := String.ofList (dropEnd isBlank s.toList)

def strip (s : String) : String := String.ofList (dropEnd isBlank (s.toList.dropWhile isBlank))

def stripNewlines (s : String) : String := String.ofList (dropEnd (· == '\n') s.toList)

end ShellFlow.Text

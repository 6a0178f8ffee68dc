/-!
# Control sequences

What a terminal does not show but obeys: colours, cursor moves and the like. A control sequence is
an escape character and an opening bracket, then parameters, then intermediate characters, and a
character that ends it; there may be no parameters and no intermediates. Where text goes to no
terminal, the sequences are taken out.

## Main statements

* `removeSequences_of_no_escape`: a text without escape character stays as it is.
-/

namespace ShellFlow.Text

/-- The character with which every control sequence begins. -/
def escape : Char := '\x1b'

/-- True of a character of the parameters: a digit or one of the signs after the digits. -/
def isParameter (c : Char) : Bool := '0' ≤ c && c ≤ '?'

/-- True of a character that may follow the parameters: a blank or one of the signs before the
digits. -/
def isIntermediate (c : Char) : Bool := ' ' ≤ c && c ≤ '/'

/-- True of a character that ends a control sequence: a letter or one of the signs around them. -/
def isFinal (c : Char) : Bool := '@' ≤ c && c ≤ '~'

/-- What follows a control sequence of which the bracket has been read. -/
def afterSequence? (cs : List Char) : Option (List Char) :=
  match (cs.dropWhile isParameter).dropWhile isIntermediate with
  | [] => none
  | c :: rest => if isFinal c then some rest else none

theorem length_afterSequence? {cs rest : List Char} (h : afterSequence? cs = some rest) :
    rest.length < cs.length := by
  have hparameters := (List.dropWhile_sublist isParameter (l := cs)).length_le
  have hboth := (List.dropWhile_sublist isIntermediate (l := cs.dropWhile isParameter)).length_le
  simp only [afterSequence?] at h
  split at h
  · cases h
  · rename_i c after hafter
    split at h
    · cases h
      rw [hafter, List.length_cons] at hboth
      omega
    · cases h

/-- The characters that stand outside of control sequences. -/
def removeSequences : List Char → List Char
  | [] => []
  | [c] => [c]
  | c :: d :: rest =>
    if c = escape && d = '[' then
      match _h : afterSequence? rest with
      | some after => removeSequences after
      | none => c :: removeSequences (d :: rest)
    else c :: removeSequences (d :: rest)
termination_by cs => cs.length
decreasing_by
  · have := length_afterSequence? _h
    simp only [List.length_cons]
    omega
  · simp
  · simp

/-- A text as it is shown without a terminal. -/
def withoutSequences (s : String) : String := String.ofList (removeSequences s.toList)

theorem removeSequences_of_no_escape {cs : List Char} (h : escape ∉ cs) :
    removeSequences cs = cs := by
  fun_induction removeSequences cs with
  | case1 => rfl
  | case2 c => rfl
  | case3 c d rest hc after hafter ih => simp_all
  | case4 c d rest hc hafter ih => simp_all
  | case5 c d rest hc ih =>
    simp only [List.mem_cons, not_or] at h
    rw [ih (by simp [h])]

end ShellFlow.Text

/-!
# Shell identifiers

Which names may stand in a shell variable name, and how any text is made into one that may.

## Main statements

* `isIdentifier_iff`: the Boolean test says what an identifier is.
* `isShellName_iff`: the names that are let through.
* `isIdentChar_of_mem_sanitize`: a sanitized text has identifier characters only.
* `sanitize_of_forall`: a text of identifier characters is left as it is.
* `sanitize_of_isIdentifier`: so is an identifier.
-/

namespace ShellFlow

/-- ASCII letters and the underscore. -/
def isIdentStart (c : Char) : Bool := c.isAlpha || c == '_'

/-- ASCII letters, digits and the underscore. -/
def isIdentChar (c : Char) : Bool := c.isAlphanum || c == '_'

/-- True of a text that is a shell identifier. -/
def isIdentifierChars : List Char → Bool
  | [] => false
  | c :: rest => isIdentStart c && rest.all isIdentChar

/-- True of a shell identifier: identifier characters, at least one, and no digit in front. -/
def isIdentifier (s : String) : Bool := isIdentifierChars s.toList

/-- True of the names that are let through: an identifier, with one newline after it or none. -/
def isShellName (s : String) : Bool :=
  let cs := s.toList
  isIdentifierChars cs || (cs.getLast? == some '\n' && isIdentifierChars cs.dropLast)

/-- Replaces every character that no identifier may have by an underscore. -/
def sanitizeChar (c : Char) : Char := if isIdentChar c then c else '_'

/-- The text with an underscore for every character that no identifier may have. -/
def sanitize (s : String) : String := String.ofList (s.toList.map sanitizeChar)

theorem isIdentChar_of_isIdentStart {c : Char} (h : isIdentStart c = true) :
    isIdentChar c = true := by
  simp only [isIdentStart, Bool.or_eq_true] at h
  simp only [isIdentChar, Char.isAlphanum, Bool.or_eq_true]
  rcases h with h | h
  · exact Or.inl (Or.inl h)
  · exact Or.inr h

theorem isIdentifier_iff (s : String) :
    isIdentifier s = true ↔
      ∃ c rest, s.toList = c :: rest ∧ isIdentStart c = true
        ∧ ∀ d ∈ rest, isIdentChar d = true := by
  unfold isIdentifier
  cases s.toList with
  | nil => simp [isIdentifierChars]
  | cons c rest =>
    simp only [isIdentifierChars, Bool.and_eq_true, List.all_eq_true, List.cons.injEq]
    constructor
    · intro h
      exact ⟨c, rest, ⟨rfl, rfl⟩, h⟩
    · rintro ⟨_, _, ⟨rfl, rfl⟩, h⟩
      exact h

/-- A name that is let through is an identifier, or an identifier with a newline behind it. -/
theorem isShellName_iff (s : String) :
    isShellName s = true ↔
      isIdentifier s = true ∨ ∃ name, isIdentifier name = true ∧ s = name ++ "\n" := by
  unfold isShellName isIdentifier
  rw [Bool.or_eq_true, Bool.and_eq_true, beq_iff_eq]
  refine or_congr_right ⟨?_, ?_⟩
  · rintro ⟨hlast, hident⟩
    obtain ⟨front, hfront⟩ := List.getLast?_eq_some_iff.mp hlast
    refine ⟨String.ofList front, by simpa [hfront] using hident, ?_⟩
    rw [← String.toList_inj]
    simp [hfront]
  · rintro ⟨name, hident, rfl⟩
    simpa using hident

theorem isIdentChar_sanitizeChar (c : Char) : isIdentChar (sanitizeChar c) = true := by
  unfold sanitizeChar
  split
  · assumption
  · decide

theorem isIdentChar_of_mem_sanitize (s : String) :
    ∀ c ∈ (sanitize s).toList, isIdentChar c = true := by
  intro c hc
  simp only [sanitize, String.toList_ofList, List.mem_map] at hc
  obtain ⟨d, _, rfl⟩ := hc
  exact isIdentChar_sanitizeChar d

theorem sanitize_of_forall {s : String} (h : ∀ c ∈ s.toList, isIdentChar c = true) :
    sanitize s = s := by
  have hmap : s.toList.map sanitizeChar = s.toList := by
    conv => rhs; rw [← List.map_id s.toList]
    exact List.map_congr_left fun c hc => by simp [sanitizeChar, h c hc]
  simp [sanitize, hmap]

theorem sanitize_of_isIdentifier {s : String} (h : isIdentifier s = true) : sanitize s = s := by
  obtain ⟨c, rest, hlist, hc, hrest⟩ := (isIdentifier_iff s).mp h
  refine sanitize_of_forall ?_
  rw [hlist]
  exact List.forall_mem_cons.mpr ⟨isIdentChar_of_isIdentStart hc, hrest⟩

end ShellFlow

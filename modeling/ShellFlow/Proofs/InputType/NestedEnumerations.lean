import Mathlib.Data.List.MinMax
import ShellFlow.Proofs.InputType.CheckRuns

/-!
# Enumerations in optional types

An enumeration checks a text twice, while compiling and in the script. Optional types around it
leave the first check as it is. In the script they move the lines of the fragment to the right, with
no regard to quotes, and so they also move the lines of an allowed text.

* **`accepts_nested`** — what passes while compiling.
* **`mem_moved_iff`** — two lists of texts, one of them moved, have the same members only if nothing
  was moved.
* **`ChecksAgree`** — the two checks let the same texts pass.
* **`optional_enumeration_alternatives`** — which texts the script lets pass, and when the two
  checks agree.
-/

namespace ShellFlow.InputType

open Shell Text

/-- Optional types accept the same texts, but for the empty one. -/
theorem accepts_nested (n : Nat) (allowed : List String) {s : String} (hs : s ≠ "") :
    (optional^[n] (ofTexts allowed)).accepts (.text s) = .ok (allowed.contains s) := by
  induction n with
  | zero => rfl
  | succ n ih =>
    have hblank : isBlankValue (.text s) = false := by
      simpa [isBlankValue] using hs
    have hoptional : ∀ t : InputType, t.optional.accepts (.text s) = t.accepts (.text s) := by
      intro t
      show (if isBlankValue (.text s) then _ else t.accepts (.text s)) = _
      rw [hblank]
      rfl
    rw [Function.iterate_succ_apply', hoptional, ih]

/-! ## Moved texts -/

/-- A text that is moved gets longer, so no list of texts holds all of its own texts moved. -/
theorem not_forall_moved_mem {allowed : List String} {width : Nat} (hpos : 0 < width)
    (h : ∃ s ∈ allowed, '\n' ∈ s.toList) :
    ∃ s ∈ allowed, indentText width s ≠ "" ∧ indentText width s ∉ allowed := by
  let long := allowed.filter fun s => s.toList.contains '\n'
  obtain ⟨s, hs, hline⟩ := h
  have hne : long ≠ [] := List.ne_nil_of_mem (List.mem_filter.mpr ⟨hs, by simpa using hline⟩)
  -- the longest text with a newline gets longer still, so it is none of the texts any more
  cases hmax : long.argmax String.length with
  | none => exact absurd (List.argmax_eq_none.mp hmax) hne
  | some t =>
    obtain ⟨ht, hnewline⟩ := List.mem_filter.mp (List.argmax_mem hmax)
    rw [List.contains_iff_mem] at hnewline
    have hlt := length_lt_indentText hnewline hpos
    refine ⟨t, ht, fun hempty => ?_, fun hmem => ?_⟩
    · rw [hempty] at hlt
      exact absurd hlt (Nat.not_lt_zero _)
    · have hmoved : '\n' ∈ (indentText width t).toList := by
        rw [indentText, String.toList_ofList]
        exact mem_indentAfter hnewline
      have hlong : indentText width t ∈ long :=
        List.mem_filter.mpr ⟨hmem, by simpa using hmoved⟩
      have hle := List.le_of_mem_argmax hlong hmax
      omega

section Moved

variable {n : Nat} {allowed : List String}

/-- Texts of one line each do not change when they are moved, nor do any texts outside of all
optional types. -/
theorem map_indentText_of_not_mem (h : n = 0 ∨ ∀ s ∈ allowed, '\n' ∉ s.toList) :
    allowed.map (indentText (2 * n)) = allowed := by
  have hsame : ∀ s ∈ allowed, indentText (2 * n) s = s := by
    intro s hs
    rcases h with rfl | hline
    · exact indentText_zero s
    · exact indentText_of_not_mem (hline s hs) (2 * n)
  rw [List.map_congr_left hsame, List.map_id']

/-- Moved texts are the same texts only if nothing was moved. -/
theorem mem_moved_iff :
    (∀ s, s ≠ "" → (s ∈ allowed.map (indentText (2 * n)) ↔ s ∈ allowed)) ↔
      n = 0 ∨ ∀ s ∈ allowed, '\n' ∉ s.toList := by
  constructor
  · intro h
    by_contra hmoved
    push Not at hmoved
    obtain ⟨hn, hline⟩ := hmoved
    obtain ⟨s, hs, hne, hnot⟩ := not_forall_moved_mem (by omega : 0 < 2 * n) hline
    exact hnot ((h _ hne).mp (List.mem_map_of_mem hs))
  · intro h s _
    rw [map_indentText_of_not_mem h]

/-- The moved texts are the same only in these two cases. Otherwise a text that has several lines
gets longer. -/
theorem map_indentText_eq_iff :
    allowed.map (indentText (2 * n)) = allowed ↔ n = 0 ∨ ∀ s ∈ allowed, '\n' ∉ s.toList := by
  constructor
  · intro h
    refine mem_moved_iff.mp fun s _ => ?_
    rw [h]
  · exact map_indentText_of_not_mem

end Moved

/-! ## The two checks

The check while compiling sees the texts as they are given, and the one in the script sees them
moved. -/

/-- The pattern in the script holds the texts, each moved as far as the optional types around it
reach. -/
theorem alternatives?_nested (n : Nat) {allowed : List String} (hne : allowed ≠ []) :
    Shell.alternatives? (optional^[n] (ofTexts allowed)).runtimeCheck =
      some (allowed.map (indentText (2 * n))) := by
  let moved := allowed.map (indentText (2 * n))
  -- the guard of the enumeration itself is one more of those in front of the pattern
  have hguards : ∀ line ∈ List.replicate n CheckLine.guard ++ [.guard], line = .guard := by
    rw [← List.replicate_succ']
    exact fun line hline => List.eq_of_mem_replicate hline
  have hshape : List.replicate n CheckLine.guard ++ enumLines moved ++ List.replicate n .endGuard =
      (List.replicate n .guard ++ [.guard]) ++ .choose :: .oneOf moved
        :: ((enumLines moved).drop 3 ++ List.replicate n .endGuard) := by
    simp [enumLines]
  have hmoved : moved ≠ [] := by simpa [moved] using hne
  exact HasLines.alternatives? hguards hmoved (hshape ▸ hasLines_nested n allowed)

/-- A text that is there passes the check in the script exactly if it passes while compiling. -/
def ChecksAgree (t : InputType) : Prop :=
  ∀ env : String → String, env "VALUE" ≠ "" →
    (passes? env t.runtimeCheck = some true ↔ t.accepts (.text (env "VALUE")) = .ok true)

/-- The two checks agree exactly if moving changes none of the texts. -/
theorem checksAgree_nested_iff (n : Nat) {allowed : List String} (hne : allowed ≠ [])
    (hplain : ∀ s ∈ allowed, IsPlainText s) :
    ChecksAgree (optional^[n] (ofTexts allowed)) ↔ n = 0 ∨ ∀ s ∈ allowed, '\n' ∉ s.toList := by
  have hchecks : ∀ env : String → String, env "VALUE" ≠ "" →
      ((passes? env (optional^[n] (ofTexts allowed)).runtimeCheck = some true ↔
        (optional^[n] (ofTexts allowed)).accepts (.text (env "VALUE")) = .ok true) ↔
      (env "VALUE" ∈ allowed.map (indentText (2 * n)) ↔ env "VALUE" ∈ allowed)) := by
    intro env hvalue
    rw [passes?_nested env n hne hplain, accepts_nested n allowed hvalue]
    simp [hvalue]
  rw [← mem_moved_iff]
  constructor
  · exact fun h s hs => (hchecks (fun _ => s) hs).mp (h (fun _ => s) hs)
  · exact fun h env hvalue => (hchecks env hvalue).mpr (h _ hvalue)

/-- **An enumeration in any number of optional types.** The pattern in the script holds the allowed
texts with two blanks for each of the types after every newline, so it holds the allowed texts
themselves only if there is no such type or no such newline. While compiling, the texts themselves
pass. If the message can be read, the script lets exactly the texts of the pattern pass, and this is
what passes while compiling under the same condition only. Induction on the number of types goes
into `alternatives?_nested` and `passes?_nested`. -/
theorem optional_enumeration_alternatives (n : Nat) {allowed : List String} (hne : allowed ≠ []) :
    ∃ t, enumeration (allowed.map .text) = .ok t
      ∧ Shell.alternatives? (optional^[n] t).runtimeCheck =
          some (allowed.map (indentText (2 * n)))
      ∧ (Shell.alternatives? (optional^[n] t).runtimeCheck = some allowed ↔
          n = 0 ∨ ∀ s ∈ allowed, '\n' ∉ s.toList)
      ∧ (∀ s, s ≠ "" → (optional^[n] t).accepts (.text s) = .ok (allowed.contains s))
      ∧ ((∀ s ∈ allowed, IsPlainText s) →
          (∀ env, passes? env (optional^[n] t).runtimeCheck =
            some (env "VALUE" == "" || (allowed.map (indentText (2 * n))).contains (env "VALUE")))
          ∧ (ChecksAgree (optional^[n] t) ↔ n = 0 ∨ ∀ s ∈ allowed, '\n' ∉ s.toList)) := by
  have halternatives := alternatives?_nested n hne
  refine ⟨ofTexts allowed, enumeration_texts hne, halternatives, ?_, ?_, ?_⟩
  · rw [halternatives, Option.some.injEq]
    exact map_indentText_eq_iff
  · exact fun s hs => accepts_nested n allowed hs
  · exact fun hplain =>
      ⟨fun env => passes?_nested env n hne hplain, checksAgree_nested_iff n hne hplain⟩

/-- One optional type is enough, with one text of two lines. -/
theorem optional_two_lines_alternatives :
    ["a\nb"] ≠ [] ∧ ∃ t, enumeration [.text "a\nb"] = .ok t
      ∧ Shell.alternatives? t.optional.runtimeCheck = some ["a\n  b"]
      ∧ t.optional.accepts (.text "a\nb") = .ok true ∧ ¬ ChecksAgree t.optional := by
  have hne : ["a\nb"] ≠ [] := by decide
  have hplain : ∀ s ∈ ["a\nb"], IsPlainText s := by
    intro s hs
    rw [List.mem_singleton.mp hs]
    decide
  obtain ⟨t, ht, hpattern, -, haccepts, hscript⟩ := optional_enumeration_alternatives 1 hne
  refine ⟨hne, t, ht, hpattern, haccepts _ (by decide), fun hagree => ?_⟩
  rcases (hscript hplain).2.mp hagree with hnone | hline
  · cases hnone
  · exact hline "a\nb" List.mem_cons_self (by decide)

end ShellFlow.InputType

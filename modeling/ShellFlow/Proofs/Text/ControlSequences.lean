import ShellFlow.Proofs.Text.Lines
import ShellFlow.Text.ControlSequence

/-!
# Control sequences line by line

A control sequence never goes on over a newline, so a text loses its sequences line by line.

* **`removeSequences_append_newline`** — what stands before a newline is read on its own.
* **`withoutSequences_joinLines`** — the same for all lines of a text.
-/

namespace ShellFlow.Text

/-- Dropping from the front stops at the latest where a character is to be kept. -/
theorem dropWhile_append_cons {p : Char → Bool} {c : Char} (hc : p c = false) (cs rest : List Char) :
    (cs ++ c :: rest).dropWhile p = cs.dropWhile p ++ c :: rest := by
  induction cs with
  | nil => rw [List.nil_append, List.dropWhile_cons_of_neg (by simp [hc]), List.dropWhile_nil,
      List.nil_append]
  | cons d more ih =>
    cases hd : p d with
    | true => rw [List.cons_append, List.dropWhile_cons_of_pos hd, List.dropWhile_cons_of_pos hd, ih]
    | false =>
      rw [List.cons_append, List.dropWhile_cons_of_neg (by simp [hd]),
        List.dropWhile_cons_of_neg (by simp [hd]), List.cons_append]

/-- A sequence that has not ended at a newline does not end after it. -/
theorem afterSequence?_append_newline (cs rest : List Char) :
    afterSequence? (cs ++ '\n' :: rest) = (afterSequence? cs).map (· ++ '\n' :: rest) := by
  unfold afterSequence?
  rw [dropWhile_append_cons (by decide), dropWhile_append_cons (by decide)]
  cases (cs.dropWhile isParameter).dropWhile isIntermediate with
  | nil => exact if_neg (by decide)
  | cons c after =>
    show (if isFinal c then some (after ++ '\n' :: rest) else none) =
      (if isFinal c then some after else none).map (· ++ '\n' :: rest)
    cases isFinal c <;> rfl

/-- A newline is part of no control sequence: whatever is taken out ends before it. -/
theorem removeSequences_newline (rest : List Char) :
    removeSequences ('\n' :: rest) = '\n' :: removeSequences rest := by
  cases rest with
  | nil => rw [removeSequences, removeSequences]
  | cons d more => rw [removeSequences, if_neg (by simp [escape])]

/-- What stands before a newline is read on its own. Induction along the reading. -/
theorem removeSequences_append_newline (cs rest : List Char) :
    removeSequences (cs ++ '\n' :: rest) = removeSequences cs ++ '\n' :: removeSequences rest := by
  fun_induction removeSequences cs with
  | case1 => exact removeSequences_newline rest
  | case2 c =>
    -- a newline is no bracket, so an escape in front of it begins nothing
    show removeSequences (c :: '\n' :: rest) = c :: '\n' :: removeSequences rest
    rw [removeSequences, if_neg (by simp), removeSequences_newline]
  | case3 c d more hc after hafter ih =>
    show removeSequences (c :: d :: (more ++ '\n' :: rest)) = _
    have hwhole : afterSequence? (more ++ '\n' :: rest) = some (after ++ '\n' :: rest) := by
      rw [afterSequence?_append_newline, hafter, Option.map_some]
    rw [removeSequences, if_pos hc]
    split
    · rename_i after' hafter'
      rw [hwhole, Option.some.injEq] at hafter'
      rw [← hafter', ih]
    · rename_i hnone
      rw [hwhole] at hnone
      cases hnone
  | case4 c d more hc hafter ih =>
    show removeSequences (c :: d :: (more ++ '\n' :: rest)) = _
    have hwhole : afterSequence? (more ++ '\n' :: rest) = none := by
      rw [afterSequence?_append_newline, hafter, Option.map_none]
    rw [removeSequences, if_pos hc]
    split
    · rename_i after' hafter'
      rw [hwhole] at hafter'
      cases hafter'
    · exact congrArg (c :: ·) ih
  | case5 c d more hc ih =>
    show removeSequences (c :: d :: (more ++ '\n' :: rest)) = _
    rw [removeSequences, if_neg hc]
    exact congrArg (c :: ·) ih

/-- **Taking the sequences out of a text is taking them out of its lines**, as none of them reaches
over the end of a line. -/
theorem withoutSequences_joinLines (lines : List String) :
    withoutSequences (joinLines lines) = joinLines (lines.map withoutSequences) := by
  induction lines with
  | nil =>
    have hempty : "".toList = [] := rfl
    show withoutSequences "" = ""
    rw [withoutSequences, hempty, removeSequences]
  | cons line rest ih =>
    cases rest with
    | nil => simp [joinLines]
    | cons next more =>
      have hjoin : ∀ first second : String, ∀ others : List String,
          joinLines (first :: second :: others) = first ++ "\n" ++ joinLines (second :: others) :=
        fun first _ _ => joinLines_append (List.cons_ne_nil first []) (List.cons_ne_nil _ _)
      -- the newline behind the first line ends every sequence in it
      have hchars : (line ++ "\n" ++ joinLines (next :: more)).toList =
          line.toList ++ '\n' :: (joinLines (next :: more)).toList := by
        simp
      rw [hjoin, List.map_cons, List.map_cons, hjoin, ← List.map_cons, ← ih, ← String.toList_inj,
        withoutSequences, String.toList_ofList, hchars, removeSequences_append_newline]
      simp [withoutSequences]

/-- What is left behind a sequence is an end of the text. So it has no newline more, and the removal
gets shorter with every sequence it finds. -/
theorem suffix_of_afterSequence? {cs after : List Char} (h : afterSequence? cs = some after) :
    after <:+ cs := by
  unfold afterSequence? at h
  split at h
  · cases h
  · rename_i c rest hdrop
    split at h
    · cases h
      have hsuffix := ((cs.dropWhile isParameter).dropWhile_suffix isIntermediate).trans
        (cs.dropWhile_suffix isParameter)
      rw [hdrop] at hsuffix
      exact (List.suffix_cons c after).trans hsuffix
    · cases h

/-- Characters are taken out, none is added. -/
theorem mem_of_mem_removeSequences {cs : List Char} {c : Char} (h : c ∈ removeSequences cs) :
    c ∈ cs := by
  fun_induction removeSequences cs with
  | case1 => exact h
  | case2 d => exact h
  | case3 d e rest _ after hafter ih =>
    have hmem := (suffix_of_afterSequence? hafter).subset (ih h)
    exact List.mem_cons_of_mem d (List.mem_cons_of_mem e hmem)
  | case4 d e rest _ _ ih | case5 d e rest _ ih =>
    rcases List.mem_cons.mp h with rfl | hmem
    · exact List.mem_cons_self
    · exact List.mem_cons_of_mem d (ih hmem)

end ShellFlow.Text

import ShellFlow.Proofs.Text.Indentation

/-!
# Lines of texts

Cutting a text into lines and joining lines to a text, from one side to the other.

* **`splitNewlines_joinLines`** — the lines of texts that were joined.
* **`joinLines_splitNewlines`** — a text is its lines, joined again.
* **`toList_joinLines_append`** — joined lines as characters, with a newline at the end of each of
  the first.
-/

namespace ShellFlow.Text

/-! ## Cutting -/

/-- The lines of two texts with a newline in between are the lines of the one and those of the
other. -/
theorem splitNewlines_append_newline (first second : String) :
    splitNewlines (first ++ "\n" ++ second) = splitNewlines first ++ splitNewlines second := by
  have hchars : (first ++ "\n" ++ second).toList = first.toList ++ '\n' :: second.toList := by
    simp
  rw [splitNewlines, hchars, cutAtNewlines_append_newline, List.map_append]
  rfl

/-- The lines of joined texts are those of one text after the other. -/
theorem splitNewlines_joinLines {texts : List String} (hne : texts ≠ []) :
    splitNewlines (joinLines texts) = texts.flatMap splitNewlines := by
  induction texts with
  | nil => exact absurd rfl hne
  | cons text rest ih =>
    cases rest with
    | nil => simp [joinLines]
    | cons next more =>
      have hjoin : joinLines (text :: next :: more) = text ++ "\n" ++ joinLines (next :: more) :=
        joinLines_append (List.cons_ne_nil text []) (List.cons_ne_nil next more)
      rw [hjoin, splitNewlines_append_newline, ih (List.cons_ne_nil _ _)]
      rfl

/-- A front without a newline becomes part of the first line. -/
theorem splitNewlines_append {front : String} (h : '\n' ∉ front.toList) (s : String) :
    ∃ line lines, splitNewlines s = line :: lines
      ∧ splitNewlines (front ++ s) = (front ++ line) :: lines := by
  obtain ⟨line, lines, hcut⟩ := List.exists_cons_of_ne_nil (cutAtNewlines_ne_nil s.toList)
  refine ⟨String.ofList line, lines.map String.ofList, by rw [splitNewlines, hcut, List.map_cons],
    ?_⟩
  have hfront : ∀ cs : List Char, '\n' ∉ cs →
      cutAtNewlines (cs ++ s.toList) = (cs ++ line) :: lines := by
    intro cs hcs
    induction cs with
    | nil => exact hcut
    | cons c more ih =>
      rw [List.mem_cons, not_or] at hcs
      exact cutAtNewlines_cons_of_ne (Ne.symm hcs.1) (ih hcs.2)
  rw [splitNewlines, String.toList_append, hfront _ h, List.map_cons, String.ofList_append,
    String.ofList_toList]

theorem not_mem_of_mem_cutAtNewlines {cs line : List Char} (h : line ∈ cutAtNewlines cs) :
    '\n' ∉ line := by
  induction cs generalizing line with
  | nil =>
    rw [List.mem_singleton.mp h]
    exact List.not_mem_nil
  | cons c rest ih =>
    obtain ⟨first, lines, hcut⟩ := List.exists_cons_of_ne_nil (cutAtNewlines_ne_nil rest)
    rw [hcut] at ih
    by_cases hc : c = '\n'
    · rw [cutAtNewlines, if_pos hc, hcut] at h
      rcases List.mem_cons.mp h with rfl | hmem
      · exact List.not_mem_nil
      · exact ih hmem
    · rw [cutAtNewlines_cons_of_ne hc hcut] at h
      rcases List.mem_cons.mp h with rfl | hmem
      · rw [List.mem_cons, not_or]
        exact ⟨Ne.symm hc, ih List.mem_cons_self⟩
      · exact ih (List.mem_cons_of_mem _ hmem)

theorem not_mem_of_mem_splitNewlines {s line : String} (h : line ∈ splitNewlines s) :
    '\n' ∉ line.toList := by
  obtain ⟨cs, hcs, rfl⟩ := List.mem_map.mp h
  rw [String.toList_ofList]
  exact not_mem_of_mem_cutAtNewlines hcs

/-! ## Joining -/

/-- Cutting a text into lines and putting them below each other gives it back. -/
theorem joinLines_splitNewlines (s : String) : joinLines (splitNewlines s) = s := by
  have hchars : (splitNewlines s).map String.toList = cutAtNewlines s.toList := by
    rw [splitNewlines, List.map_map]
    exact (List.map_congr_left fun _ _ => String.toList_ofList).trans (List.map_id _)
  have hnewline : "\n".toList = ['\n'] := rfl
  rw [← String.toList_inj, joinLines, String.toList_intercalate, hchars, hnewline,
    intercalate_cutAtNewlines]

/-- The characters of lines, with the newline at the end of each. -/
def charsOfLines (lines : List String) : List Char := lines.flatMap fun line => line.toList ++ ['\n']

/-- The lines in front of others each end in a newline; the last line of all has none, which is why
something has to follow here. -/
theorem toList_joinLines_append (before : List String) {rest : List String} (hne : rest ≠ []) :
    (joinLines (before ++ rest)).toList = charsOfLines before ++ (joinLines rest).toList := by
  induction before with
  | nil => rfl
  | cons line more ih =>
    have hjoin : joinLines (line :: (more ++ rest)) = line ++ "\n" ++ joinLines (more ++ rest) :=
      joinLines_append (List.cons_ne_nil line []) (List.append_ne_nil_of_right_ne_nil more hne)
    have hfirst : charsOfLines (line :: more) = line.toList ++ "\n".toList ++ charsOfLines more :=
      rfl
    rw [List.cons_append, hjoin, String.toList_append, String.toList_append, ih, hfirst,
      List.append_assoc _ _ (joinLines rest).toList]

theorem charsOfLines_append (first second : List String) :
    charsOfLines (first ++ second) = charsOfLines first ++ charsOfLines second :=
  List.flatMap_append

/-- A text that ends with a newline has one at the end of each line. -/
theorem toList_joinLines_end (lines : List String) :
    (joinLines (lines ++ [""])).toList = charsOfLines lines :=
  (toList_joinLines_append lines (List.cons_ne_nil "" [])).trans (List.append_nil _)

/-- It matters only how lines are joined, not what the lines are. -/
theorem charsOfLines_congr {first second : List String} (h₁ : first ≠ []) (h₂ : second ≠ [])
    (h : joinLines first = joinLines second) : charsOfLines first = charsOfLines second := by
  rw [← toList_joinLines_end, ← toList_joinLines_end, joinLines_append h₁ (List.cons_ne_nil "" []),
    joinLines_append h₂ (List.cons_ne_nil "" []), h]

end ShellFlow.Text

import Mathlib.Data.List.DropRight
import ShellFlow.Text.Blank
import ShellFlow.Text.Lines

/-!
# Indented text

To indent a text is to cut it into lines, to put a margin before each and to join them again. On the
characters this comes to a margin after every newline, wherever it stands. A line that is empty gets
none.

* **`indentAfter`** — the margin after each newline, on characters.
* **`indentAfter_append`**, **`indentAfter_intercalate`** — a text that is put together can be
  indented part by part.
* **`indentAfter_indentAfter`** — two margins are one.
* **`toList_indentLines`** — indenting line by line, as `indentLines` does.
-/

namespace ShellFlow.Text

/-- The characters with a margin after every newline, unless another newline follows. -/
def indentAfter (margin : List Char) : List Char → List Char
  | [] => []
  | c :: rest =>
    if c = '\n' ∧ rest.head? ≠ some '\n' then c :: (margin ++ indentAfter margin rest)
    else c :: indentAfter margin rest

section Margin

variable {margin : List Char}

theorem indentAfter_cons_of_ne {c : Char} (hc : c ≠ '\n') (rest : List Char) :
    indentAfter margin (c :: rest) = c :: indentAfter margin rest := by
  rw [indentAfter, if_neg]
  exact fun h => hc h.1

/-- The margin goes behind a newline, unless another newline follows: blank lines stay empty. -/
theorem indentAfter_newline {rest : List Char} (h : rest.head? ≠ some '\n') :
    indentAfter margin ('\n' :: rest) = '\n' :: (margin ++ indentAfter margin rest) := by
  rw [indentAfter, if_pos ⟨rfl, h⟩]

/-- A text of one line is not changed; its margin is put in front of it by the caller. -/
theorem indentAfter_of_not_mem {cs : List Char} (h : '\n' ∉ cs) : indentAfter margin cs = cs := by
  induction cs with
  | nil => rfl
  | cons c rest ih =>
    rw [List.mem_cons, not_or] at h
    rw [indentAfter_cons_of_ne (Ne.symm h.1), ih h.2]

/-- The first character stays the first, as the margin goes behind newlines only. -/
theorem head?_indentAfter (cs : List Char) : (indentAfter margin cs).head? = cs.head? := by
  cases cs with
  | nil => rfl
  | cons c rest =>
    rw [indentAfter]
    split <;> rfl

theorem mem_indentAfter {cs : List Char} {c : Char} (h : c ∈ cs) : c ∈ indentAfter margin cs := by
  induction cs with
  | nil => cases h
  | cons d rest ih =>
    rw [indentAfter]
    rcases List.mem_cons.mp h with rfl | hmem
    · split <;> exact List.mem_cons_self
    · have hrest := ih hmem
      split <;> simp [hrest]

/-- Only the margin is added to a text. -/
theorem mem_or_mem_of_mem_indentAfter {cs : List Char} {c : Char}
    (h : c ∈ indentAfter margin cs) : c ∈ cs ∨ c ∈ margin := by
  induction cs with
  | nil => cases h
  | cons d rest ih =>
    rw [indentAfter] at h
    split at h
    · simp only [List.mem_cons, List.mem_append] at h
      rcases h with rfl | hmargin | hrest
      · exact Or.inl List.mem_cons_self
      · exact Or.inr hmargin
      · exact (ih hrest).imp_left (List.mem_cons_of_mem d)
    · rcases List.mem_cons.mp h with rfl | hrest
      · exact Or.inl List.mem_cons_self
      · exact (ih hrest).imp_left (List.mem_cons_of_mem d)

/-- Two texts can be indented one by one, unless two newlines meet. -/
theorem indentAfter_append {first second : List Char}
    (h : first.getLast? ≠ some '\n' ∨ second.head? ≠ some '\n') :
    indentAfter margin (first ++ second) =
      indentAfter margin first ++ indentAfter margin second := by
  induction first with
  | nil => rfl
  | cons c rest ih =>
    have hrest : indentAfter margin (rest ++ second) =
        indentAfter margin rest ++ indentAfter margin second := by
      refine ih (h.imp_left fun hlast => ?_)
      cases rest with
      | nil => simp
      | cons d more => simpa using hlast
    rw [List.cons_append, indentAfter, indentAfter, hrest]
    -- what comes after the first character begins as before, or with the second text
    have hhead : (c = '\n' ∧ (rest ++ second).head? ≠ some '\n') ↔
        (c = '\n' ∧ rest.head? ≠ some '\n') := by
      refine and_congr_right fun hc => ?_
      cases rest with
      | nil =>
        have hsecond : second.head? ≠ some '\n' := h.resolve_left (by simp [hc])
        simpa using hsecond
      | cons d more => simp
    simp only [hhead]
    split <;> simp

/-- A part of a text between two that have no newline gets its margins as if it were alone. -/
theorem indentAfter_between {front middle back : List Char} (hfront : '\n' ∉ front)
    (hback : '\n' ∉ back) :
    indentAfter margin (front ++ middle ++ back) =
      front ++ indentAfter margin middle ++ back := by
  have hlast : front.getLast? ≠ some '\n' := fun h => hfront (List.mem_of_getLast? h)
  have hhead : back.head? ≠ some '\n' := fun h => hback (List.mem_of_mem_head? h)
  rw [indentAfter_append (Or.inr hhead), indentAfter_append (Or.inl hlast),
    indentAfter_of_not_mem hfront, indentAfter_of_not_mem hback]

/-- Parts that are set apart by something else than newlines are indented one by one. -/
theorem indentAfter_intercalate {separator : List Char} (hne : separator ≠ [])
    (hline : '\n' ∉ separator) (parts : List (List Char)) :
    indentAfter margin (separator.intercalate parts) =
      separator.intercalate (parts.map (indentAfter margin)) := by
  obtain ⟨c, more, rfl⟩ := List.exists_cons_of_ne_nil hne
  have hlast : (c :: more).getLast? ≠ some '\n' := fun h => hline (List.mem_of_getLast? h)
  have hhead : c ≠ '\n' := fun h => hline (h ▸ List.mem_cons_self)
  induction parts with
  | nil => rfl
  | cons part rest ih =>
    cases rest with
    | nil => simp
    | cons next rest =>
      rw [List.intercalate_cons_cons, List.map_cons, List.map_cons, List.intercalate_cons_cons,
        List.append_assoc, indentAfter_append (Or.inr (by simpa using hhead)),
        indentAfter_append (Or.inl hlast), indentAfter_of_not_mem hline, ih]
      simp

/-- A margin on top of another one is a margin of both. -/
theorem indentAfter_indentAfter {inner : List Char} (h : '\n' ∉ inner) (cs : List Char) :
    indentAfter margin (indentAfter inner cs) = indentAfter (margin ++ inner) cs := by
  induction cs with
  | nil => rfl
  | cons c rest ih =>
    rw [indentAfter, indentAfter.eq_def (margin ++ inner)]
    dsimp only
    split
    · rename_i hnewline
      obtain ⟨rfl, hhead⟩ := hnewline
      -- after the inner margin there is no newline either
      have hmore : (inner ++ indentAfter inner rest).head? ≠ some '\n' := by
        cases inner with
        | nil => simpa [head?_indentAfter] using hhead
        | cons d more =>
          intro heq
          exact h (by simp_all)
      have hrest : (indentAfter inner rest).head? ≠ some '\n' := by
        rwa [head?_indentAfter]
      rw [indentAfter_newline hmore, indentAfter_append (Or.inr hrest), indentAfter_of_not_mem h,
        ih, List.append_assoc]
    · rename_i hnewline
      rw [indentAfter, head?_indentAfter, if_neg hnewline, ih]

/-- A text that changes has a newline in it, and gets longer. -/
theorem length_lt_indentAfter (hne : margin ≠ []) {cs : List Char} (h : '\n' ∈ cs) :
    cs.length < (indentAfter margin cs).length := by
  have hle : ∀ cs : List Char, cs.length ≤ (indentAfter margin cs).length := by
    intro cs
    induction cs with
    | nil => exact Nat.le_refl _
    | cons c rest ih =>
      rw [indentAfter]
      split
      · simp only [List.length_cons, List.length_append]
        omega
      · simpa using ih
  induction cs with
  | nil => cases h
  | cons c rest ih =>
    have hmargin := List.length_pos_iff.mpr hne
    have hrest := hle rest
    rw [indentAfter]
    split
    · simp only [List.length_cons, List.length_append]
      omega
    · rename_i hnewline
      -- if this is a newline, the next character is one as well
      have hmem : '\n' ∈ rest := by
        rcases List.mem_cons.mp h with rfl | hmem
        · have hhead : rest.head? = some '\n' :=
            Decidable.byContradiction fun hhead => hnewline ⟨rfl, hhead⟩
          exact List.mem_of_mem_head? hhead
        · exact hmem
      have hlonger := ih hmem
      simp only [List.length_cons]
      omega

end Margin

/-! ## Lines -/

/-- True of a text with something in it that neither begins nor ends with a newline. -/
structure IsTrimmed (cs : List Char) : Prop where
  head : cs.head? ≠ some '\n'
  last : cs.getLast? ≠ some '\n'
  ne_nil : cs ≠ []

/-- The margin of a line that is not empty. -/
def lineMargin (margin : List Char) (cs : List Char) : List Char :=
  if cs = [] ∨ cs.head? = some '\n' then [] else margin

theorem cutAtNewlines_ne_nil (cs : List Char) : cutAtNewlines cs ≠ [] := by
  cases cs with
  | nil => exact List.cons_ne_nil _ _
  | cons c rest =>
    rw [cutAtNewlines]
    split
    · exact List.cons_ne_nil _ _
    · split <;> exact List.cons_ne_nil _ _

theorem cutAtNewlines_cons_of_ne {c : Char} (hc : c ≠ '\n') {rest line : List Char}
    {lines : List (List Char)} (h : cutAtNewlines rest = line :: lines) :
    cutAtNewlines (c :: rest) = (c :: line) :: lines := by
  rw [cutAtNewlines, if_neg hc, h]

/-- A newline cuts a text in two. -/
theorem cutAtNewlines_append_newline (first second : List Char) :
    cutAtNewlines (first ++ '\n' :: second) = cutAtNewlines first ++ cutAtNewlines second := by
  induction first with
  | nil => rfl
  | cons c rest ih =>
    by_cases hc : c = '\n'
    · rw [List.cons_append, cutAtNewlines, cutAtNewlines, if_pos hc, if_pos hc, ih]
      rfl
    · obtain ⟨line, lines, hcut⟩ := List.exists_cons_of_ne_nil (cutAtNewlines_ne_nil rest)
      rw [hcut] at ih
      rw [List.cons_append, cutAtNewlines_cons_of_ne hc ih, cutAtNewlines_cons_of_ne hc hcut]
      rfl

theorem cutAtNewlines_of_not_mem {line : List Char} (h : '\n' ∉ line) :
    cutAtNewlines line = [line] := by
  induction line with
  | nil => rfl
  | cons c more ih =>
    rw [List.mem_cons, not_or] at h
    exact cutAtNewlines_cons_of_ne (Ne.symm h.1) (ih h.2)

/-- A line of its own is cut off at its newline. -/
theorem cutAtNewlines_append {line : List Char} (h : '\n' ∉ line) (rest : List Char) :
    cutAtNewlines (line ++ '\n' :: rest) = line :: cutAtNewlines rest := by
  rw [cutAtNewlines_append_newline, cutAtNewlines_of_not_mem h]
  rfl

/-- Cutting at newlines loses nothing: with newlines in between, the lines are the text again. -/
theorem intercalate_cutAtNewlines (cs : List Char) :
    ['\n'].intercalate (cutAtNewlines cs) = cs := by
  induction cs with
  | nil => rfl
  | cons c rest ih =>
    obtain ⟨line, lines, hcut⟩ := List.exists_cons_of_ne_nil (cutAtNewlines_ne_nil rest)
    by_cases hc : c = '\n'
    · rw [cutAtNewlines, if_pos hc, hcut, List.intercalate_cons_cons, ← hcut, ih, hc]
      rfl
    · rw [cutAtNewlines_cons_of_ne hc hcut, List.intercalate_cons_cons_left, ← hcut, ih]

/-- The first line is empty where a newline or the end of the text follows at once. -/
theorem isEmpty_of_cutAtNewlines {cs line : List Char} {lines : List (List Char)}
    (h : cutAtNewlines cs = line :: lines) :
    line.isEmpty = true ↔ cs = [] ∨ cs.head? = some '\n' := by
  cases cs with
  | nil =>
    cases h
    simp
  | cons c rest =>
    by_cases hc : c = '\n'
    · rw [cutAtNewlines, if_pos hc] at h
      cases h
      simp [hc]
    · obtain ⟨first, more, hcut⟩ := List.exists_cons_of_ne_nil (cutAtNewlines_ne_nil rest)
      rw [cutAtNewlines_cons_of_ne hc hcut] at h
      cases h
      simp [hc]

theorem intercalate_append_cons (front line : List Char) (lines : List (List Char)) :
    ['\n'].intercalate ((front ++ line) :: lines) =
      front ++ ['\n'].intercalate (line :: lines) := by
  cases lines with
  | nil => simp
  | cons next more => simp [List.intercalate_cons_cons]

/-- A line with a margin before it, unless it is empty. -/
def indentLine (margin line : List Char) : List Char :=
  if line.isEmpty then line else margin ++ line

/-- The lines with their margins make the indented text. Induction on the text. -/
theorem intercalate_indentLine {margin cs : List Char} (h : cs.getLast? ≠ some '\n') :
    ['\n'].intercalate ((cutAtNewlines cs).map (indentLine margin)) =
      lineMargin margin cs ++ indentAfter margin cs := by
  induction cs with
  | nil => rfl
  | cons c rest ih =>
    have hrest : rest.getLast? ≠ some '\n' := by
      cases rest with
      | nil => simp
      | cons d more => simpa using h
    have hlines := ih hrest
    obtain ⟨line, lines, hcut⟩ := List.exists_cons_of_ne_nil (cutAtNewlines_ne_nil rest)
    rw [hcut, List.map_cons] at hlines
    by_cases hc : c = '\n'
    · -- an empty line, and the text goes on after it
      have hmore : rest ≠ [] := by
        rintro rfl
        exact h (by simp [hc])
      rw [cutAtNewlines, if_pos hc, hcut, List.map_cons, List.map_cons, List.intercalate_cons_cons,
        hlines, hc]
      by_cases hhead : rest.head? = some '\n'
      · simp [lineMargin, indentLine, indentAfter, hhead]
      · simp [lineMargin, indentLine, indentAfter, hhead, hmore]
    · have hfirst : lineMargin margin (c :: rest) = margin := by
        simp [lineMargin, hc]
      have hind : indentLine margin (c :: line) = (margin ++ [c]) ++ line := by
        simp [indentLine]
      rw [cutAtNewlines_cons_of_ne hc hcut, List.map_cons, hind, intercalate_append_cons, hfirst,
        indentAfter_cons_of_ne hc, List.append_assoc, List.singleton_append]
      refine congrArg (margin ++ c :: ·) ?_
      -- the margin of the first line stands before the character, not after it
      by_cases hempty : line.isEmpty = true
      · have hnone : lineMargin margin rest = [] :=
          if_pos ((isEmpty_of_cutAtNewlines hcut).mp hempty)
        rwa [indentLine, if_pos hempty, hnone, List.nil_append] at hlines
      · have hsome : lineMargin margin rest = margin :=
          if_neg (mt (isEmpty_of_cutAtNewlines hcut).mpr hempty)
        rw [indentLine, if_neg hempty, hsome, intercalate_append_cons] at hlines
        exact List.append_cancel_left hlines

/-- The lines of a trimmed text, indented one by one, are the text with a margin in front and behind
each newline. Both forms are needed: the program works on lines, and the reader of shell text on
characters. -/
theorem toList_indentLines {margin s : String} (h : IsTrimmed s.toList) :
    (joinLines (indentLines margin (splitNewlines s))).toList =
      margin.toList ++ indentAfter margin.toList s.toList := by
  have hmargin : lineMargin margin.toList s.toList = margin.toList := by
    simp [lineMargin, h.head, h.ne_nil]
  have hlines : (indentLines margin (splitNewlines s)).map String.toList =
      (cutAtNewlines s.toList).map (indentLine margin.toList) := by
    unfold indentLines splitNewlines
    rw [List.map_map, List.map_map]
    refine List.map_congr_left fun line _ => ?_
    cases line with
    | nil => rfl
    | cons c more => simp [indentLine]
  have hnewline : "\n".toList = ['\n'] := rfl
  rw [joinLines, String.toList_intercalate, hlines, hnewline,
    intercalate_indentLine h.last, hmargin]

/-- A text begins as its front does and ends as its back does. -/
theorem IsTrimmed.append {front back : List Char} (hfront : IsTrimmed front)
    (hback : IsTrimmed back) (middle : List Char) : IsTrimmed (front ++ middle ++ back) where
  head := by
    rw [List.append_assoc, List.head?_append_of_ne_nil _ hfront.ne_nil]
    exact hfront.head
  last := by
    rw [List.getLast?_append_of_ne_nil _ hback.ne_nil]
    exact hback.last
  ne_nil h := hback.ne_nil (List.append_eq_nil_iff.mp h).2

/-- Lines without blanks at their ends stay so when they are put below each other. -/
theorem IsTrimmed.intercalate {lines : List (List Char)} (hne : lines ≠ [])
    (h : ∀ line ∈ lines, IsTrimmed line) : IsTrimmed (['\n'].intercalate lines) := by
  induction lines with
  | nil => exact absurd rfl hne
  | cons line rest ih =>
    have hline := h line List.mem_cons_self
    cases rest with
    | nil => rwa [List.intercalate_singleton]
    | cons next more =>
      have hrest := ih (List.cons_ne_nil _ _) fun l hl => h l (List.mem_cons_of_mem _ hl)
      rw [List.intercalate_cons_cons]
      exact hline.append hrest ['\n']

/-- Lines get their margins one by one. -/
theorem indentAfter_lines {margin : List Char} {lines : List (List Char)} (hne : lines ≠ [])
    (h : ∀ line ∈ lines, IsTrimmed line) :
    margin ++ indentAfter margin (['\n'].intercalate lines) =
      ['\n'].intercalate (lines.map fun line => margin ++ indentAfter margin line) := by
  induction lines with
  | nil => exact absurd rfl hne
  | cons line rest ih =>
    cases rest with
    | nil => simp
    | cons next more =>
      have hlast := (h line List.mem_cons_self).last
      have hmem : ∀ l ∈ next :: more, IsTrimmed l := fun l hl => h l (List.mem_cons_of_mem _ hl)
      have hmore := (IsTrimmed.intercalate (List.cons_ne_nil _ _) hmem).head
      have hrest := ih (List.cons_ne_nil _ _) hmem
      rw [List.intercalate_cons_cons, List.append_assoc, List.singleton_append,
        indentAfter_append (Or.inl hlast), indentAfter_newline hmore, hrest]
      simp [List.intercalate_cons_cons]

/-- Dropping from the back takes a run of one character off as a whole. -/
theorem rdropWhile_append_replicate {p : Char → Bool} {c : Char} (hc : p c = true)
    (front : List Char) (n : Nat) :
    (front ++ List.replicate n c).rdropWhile p = front.rdropWhile p := by
  induction n with
  | zero => rw [List.replicate_zero, List.append_nil]
  | succ n ih =>
    rw [List.replicate_succ', ← List.append_assoc, List.rdropWhile_concat_pos _ _ _ hc, ih]

/-- A text without the newlines at its end: it ends in none, and nothing but newlines is left out. -/
theorem stripNewlines_eq_iff {s stripped : String} :
    stripNewlines s = stripped ↔ stripped.toList.getLast? ≠ some '\n'
      ∧ ∃ n, s = stripped ++ String.ofList (List.replicate n '\n') := by
  let isNewline (c : Char) : Bool := c == '\n'
  have hstrip : ∀ s, stripNewlines s = String.ofList (s.toList.rdropWhile isNewline) :=
    fun _ => rfl
  constructor
  · rintro rfl
    rw [hstrip, String.toList_ofList]
    refine ⟨fun hlast => ?_, (s.toList.rtakeWhile isNewline).length, ?_⟩
    · obtain ⟨front, hfront⟩ := List.getLast?_eq_some_iff.mp hlast
      have hne : s.toList.rdropWhile isNewline ≠ [] := by
        rw [hfront]
        exact List.concat_ne_nil _ _
      exact List.rdropWhile_last_not _ _ hne (by simp [hfront, isNewline])
    · -- what was taken off is newlines
      have hnewlines : s.toList.rtakeWhile isNewline =
          List.replicate (s.toList.rtakeWhile isNewline).length '\n' :=
        List.eq_replicate_of_mem fun c hc => beq_iff_eq.mp (List.mem_rtakeWhile_imp hc : isNewline c)
      rw [← hnewlines, ← String.ofList_append, List.rdropWhile_append_rtakeWhile,
        String.ofList_toList]
  · rintro ⟨hlast, n, rfl⟩
    -- behind the text only newlines were put, and the text does not end in one
    have hkept : stripped.toList.rdropWhile isNewline = stripped.toList := by
      refine List.rdropWhile_eq_self_iff.mpr fun hne hnewline => hlast ?_
      rw [List.getLast?_eq_some_getLast hne, beq_iff_eq.mp hnewline]
    rw [hstrip, String.toList_append, String.toList_ofList, rdropWhile_append_replicate rfl, hkept,
      String.ofList_toList]

/-- A final newline is taken off again, if it was the only one. -/
theorem stripNewlines_append {s : String} (h : s.toList.getLast? ≠ some '\n') :
    stripNewlines (s ++ "\n") = s :=
  stripNewlines_eq_iff.mpr ⟨h, 1, rfl⟩

/-- Two blocks of lines with a newline in between. An empty block would leave its newline out, so
both must have a line. -/
theorem joinLines_append {first second : List String} (h₁ : first ≠ []) (h₂ : second ≠ []) :
    joinLines (first ++ second) = joinLines first ++ "\n" ++ joinLines second :=
  String.intercalate_append_of_ne_nil h₁ h₂

/-! ## Texts -/

/-- A text with `width` blanks after every newline, as far as no empty line follows. -/
def indentText (width : Nat) (s : String) : String :=
  String.ofList (indentAfter (List.replicate width ' ') s.toList)

theorem indentText_zero (s : String) : indentText 0 s = s := by
  have hsame : ∀ cs : List Char, indentAfter [] cs = cs := by
    intro cs
    induction cs with
    | nil => rfl
    | cons c rest ih =>
      rw [indentAfter, List.nil_append, ih]
      split <;> rfl
  rw [indentText, List.replicate_zero, hsame, String.ofList_toList]

/-- **Indenting twice is indenting once by both margins**, which says what a block within a block
looks like. -/
theorem indentText_indentText (width width' : Nat) (s : String) :
    indentText width (indentText width' s) = indentText (width + width') s := by
  have hline : '\n' ∉ List.replicate width' ' ' := fun hmem =>
    absurd (List.eq_of_mem_replicate hmem) (by decide)
  rw [indentText, indentText, indentText, String.toList_ofList, indentAfter_indentAfter hline,
    List.replicate_append_replicate]

theorem indentText_of_not_mem {s : String} (h : '\n' ∉ s.toList) (width : Nat) :
    indentText width s = s := by
  rw [indentText, indentAfter_of_not_mem h, String.ofList_toList]

/-- A text of more than one line gets longer by a margin, so the indented text is another one. -/
theorem length_lt_indentText {s : String} (h : '\n' ∈ s.toList) {width : Nat} (hpos : 0 < width) :
    s.length < (indentText width s).length := by
  have hne : List.replicate width ' ' ≠ [] := by
    rw [ne_eq, List.replicate_eq_nil_iff]
    omega
  have hlt := length_lt_indentAfter hne h
  rwa [String.length_toList, ← String.length_ofList] at hlt

end ShellFlow.Text

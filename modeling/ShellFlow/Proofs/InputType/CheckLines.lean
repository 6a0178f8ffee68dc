import Mathlib.Logic.Function.Iterate
import ShellFlow.InputType.Make
import ShellFlow.Proofs.Shell.Checks

/-!
# The lines of an enumeration's check

The check of an enumeration is a fixed row of lines with two lists of texts in them: the pattern,
where each text is quoted, and the message, where none is. Every optional type around it adds a
guard and moves what is inside to the right, which also moves the lines of a text in the lists.

* **`CheckLine`** — the lines, without their margins.
* **`HasLines`** — a fragment is made of such lines. This is all that is known of a fragment below.
* **`HasLines.guarded`**, **`hasLines_nested`** — one optional type, and any number of them.
* **`exists_readsPattern`** — the words that are read in a pattern.
* **`HasLines.alternatives?`** — the pattern holds the texts.
-/

namespace ShellFlow.InputType

open Shell Text

/-! ## Enumerations of texts -/

/-- Some texts make an enumeration of just these texts. -/
theorem enumeration_texts {allowed : List String} (hne : allowed ≠ []) :
    enumeration (allowed.map .text) = .ok (ofTexts allowed) := by
  -- a single text is not taken for a list of texts
  have harguments : enumArguments (allowed.map .text) = allowed.map .text := by
    cases allowed with
    | nil => rfl
    | cons s rest => cases rest <;> rfl
  have htexts : ∀ texts : List String, allTexts? (texts.map .text) = some texts := by
    intro texts
    induction texts with
    | nil => rfl
    | cons s rest ih =>
      rw [List.map_cons, allTexts?, ih]
      rfl
  have hsome : (allowed.map Value.text).isEmpty = false := by
    simpa using hne
  unfold enumeration
  rw [harguments]
  dsimp only
  rw [hsome, htexts]
  rfl

/-! ## Lines -/

/-- A line of the check of an enumeration, or of the guards around it, without its margin. -/
inductive CheckLine where
  | guard
  | choose
  | oneOf (allowed : List String)
  | otherwise
  | complain (allowed : List String)
  | stop
  | endClause
  | endChoose
  | endGuard

namespace CheckLine

def text : CheckLine → String
  | guard => "if [ -n \"$VALUE\" ]; then"
  | choose => "case \"$VALUE\" in"
  | oneOf allowed => "|".intercalate (allowed.map quote) ++ ") ;;"
  | otherwise => "*)"
  | complain allowed =>
    "echo \"Error: $NAME must be one of: " ++ ", ".intercalate allowed ++ ". Got: $VALUE\" >&2"
  | stop => "exit 1"
  | endClause => ";;"
  | endChoose => "esac"
  | endGuard => "fi"

theorem text_oneOf (allowed : List String) :
    (oneOf allowed).text = "|".intercalate (allowed.map quote) ++ ") ;;" := rfl

theorem text_complain (allowed : List String) :
    (complain allowed).text =
      "echo \"Error: $NAME must be one of: " ++ ", ".intercalate allowed
        ++ ". Got: $VALUE\" >&2" := rfl

/-- The line of a fragment that was moved to the right. -/
def moved (width : Nat) : CheckLine → CheckLine
  | oneOf allowed => oneOf (allowed.map (indentText width))
  | complain allowed => complain (allowed.map (indentText width))
  | line => line

end CheckLine

def rowText (row : Nat × CheckLine) : String :=
  String.ofList (List.replicate row.1 ' ') ++ row.2.text

/-- The text is made of the lines, whatever their margins. -/
def HasLines (text : String) (lines : List CheckLine) : Prop :=
  ∃ rows : List (Nat × CheckLine), rows.map Prod.snd = lines
    ∧ text = joinLines (rows.map rowText ++ [""])

def enumLines (allowed : List String) : List CheckLine :=
  [.guard, .choose, .oneOf allowed, .otherwise, .complain allowed, .stop, .endClause, .endChoose,
    .endGuard]

/-- The check of an enumeration is made of the nine lines, with margins that follow the nesting.
Only here the fragment is compared with its template. -/
theorem hasLines_enumCheck (allowed : List String) :
    HasLines (enumCheck allowed) (enumLines allowed) := by
  refine ⟨[(0, .guard), (2, .choose), (4, .oneOf allowed), (4, .otherwise), (6, .complain allowed),
    (6, .stop), (6, .endClause), (2, .endChoose), (0, .endGuard)], rfl, ?_⟩
  have hpattern : rowText (4, .oneOf allowed) =
      "    " ++ "|".intercalate (allowed.map quote) ++ ") ;;" := by
    rw [String.append_assoc]
    rfl
  have hmessage : rowText (6, .complain allowed) =
      "      echo \"Error: $NAME must be one of: " ++ ", ".intercalate allowed
        ++ ". Got: $VALUE\" >&2" := by
    refine String.toList_inj.mp ?_
    simp only [rowText, CheckLine.text_complain, String.toList_append, String.toList_ofList]
    rfl
  unfold enumCheck
  rw [← hpattern, ← hmessage]
  rfl

/-! ## Moved lines

An optional type puts a margin in front of every line of the inner fragment. A line of the check is
moved as a whole, but for the texts in it: where one of these has a newline, the margin goes into
the text. -/

/-- A quoted text never begins with a newline, so the line that it stands in is not empty and is
moved like the others. -/
theorem head?_quoteChars (cs : List Char) : (quoteChars cs).head? ≠ some '\n' := by
  unfold quoteChars
  split
  · simp [mark]
  · split
    · rename_i hsafe
      intro hhead
      have hnewline := List.all_eq_true.mp hsafe '\n' (List.mem_of_mem_head? hhead)
      revert hnewline
      decide
    · simp [mark]

/-- What is written for a character begins with the character itself: for a quotation mark the
quotes are closed first, with one. -/
theorem head?_flatMap_quoteChar (cs : List Char) : (cs.flatMap quoteChar).head? = cs.head? := by
  cases cs with
  | nil => rfl
  | cons c rest =>
    rw [List.flatMap_cons, quoteChar]
    split
    · rename_i hmark
      rw [hmark]
      rfl
    · rfl

section Margin

variable {margin : List Char}

/-- A margin without quotation marks can be put into a text before it is quoted or after. Induction
on the characters; what matters is that quoting leaves newlines where they are. -/
theorem indentAfter_flatMap_quoteChar (hmargin : mark ∉ margin) (cs : List Char) :
    indentAfter margin (cs.flatMap quoteChar) = (indentAfter margin cs).flatMap quoteChar := by
  -- the margin is blank, so it can go in front of a character or inside of its quotes
  have hself : margin.flatMap quoteChar = margin := by
    have hchar : ∀ c ∈ margin, quoteChar c = [c] := by
      intro c hc
      refine if_neg ?_
      rintro rfl
      exact hmargin hc
    rw [List.flatMap_congr hchar, List.flatMap_singleton']
  induction cs with
  | nil => rfl
  | cons c rest ih =>
    by_cases hc : c = '\n'
    · subst hc
      have hquote : quoteChar '\n' = ['\n'] := rfl
      rw [List.flatMap_cons, hquote, List.singleton_append]
      by_cases hhead : rest.head? = some '\n'
      · simp [indentAfter, head?_flatMap_quoteChar, hhead, ih, hquote]
      · have hmore : (rest.flatMap quoteChar).head? ≠ some '\n' := by
          rwa [head?_flatMap_quoteChar]
        rw [indentAfter_newline hmore, indentAfter_newline hhead, ih]
        simp [hquote, hself]
    · -- what is written for any other character has no newline in it
      have hline : '\n' ∉ quoteChar c := by
        rw [quoteChar]
        split
        · decide
        · simpa using Ne.symm hc
      have hlast : (quoteChar c).getLast? ≠ some '\n' := fun h =>
        hline (List.mem_of_getLast? h)
      rw [List.flatMap_cons, indentAfter_append (Or.inl hlast), indentAfter_of_not_mem hline,
        indentAfter_cons_of_ne hc, List.flatMap_cons, ih]

/-- A text is moved inside of its quotes. -/
theorem indentAfter_quoteChars (hmargin : mark ∉ margin) (cs : List Char) :
    indentAfter margin (quoteChars cs) = quoteChars (indentAfter margin cs) := by
  by_cases hsafe : cs.all isSafe = true
  · -- a safe text has no newline, so nothing moves
    have hline : '\n' ∉ cs := by
      intro hmem
      have hnewline := List.all_eq_true.mp hsafe '\n' hmem
      revert hnewline
      decide
    have hquoted : '\n' ∉ quoteChars cs := by
      unfold quoteChars
      rw [if_pos hsafe]
      split
      · decide
      · exact hline
    rw [indentAfter_of_not_mem hline, indentAfter_of_not_mem hquoted]
  · -- what needs quotes needs them also when it is moved
    have hform : ∀ cs : List Char, ¬ cs.all isSafe = true →
        quoteChars cs = mark :: (cs.flatMap quoteChar ++ [mark]) := by
      intro cs hunsafe
      have hne : ¬ cs.isEmpty = true := by
        intro hempty
        rw [List.isEmpty_iff.mp hempty] at hunsafe
        exact hunsafe rfl
      rw [quoteChars, if_neg hne, if_neg hunsafe]
    have hmoved : ¬ (indentAfter margin cs).all isSafe = true := by
      intro hall
      refine hsafe (List.all_eq_true.mpr fun c hc => ?_)
      exact List.all_eq_true.mp hall c (mem_indentAfter hc)
    have hmark : mark ≠ '\n' := by decide
    have hend : indentAfter margin [mark] = [mark] := indentAfter_of_not_mem (by decide)
    rw [hform cs hsafe, hform _ hmoved, indentAfter_cons_of_ne hmark,
      indentAfter_append (Or.inr (by simpa using hmark)), indentAfter_flatMap_quoteChar hmargin,
      hend]

end Margin

theorem not_mem_replicate_blank {c : Char} (h : c ≠ ' ') (n : Nat) : c ∉ List.replicate n ' ' :=
  fun hmem => h (List.eq_of_mem_replicate hmem)

/-- To move a quoted text is to quote the moved text: the quotes give no protection. -/
theorem indentText_quote (width : Nat) (s : String) :
    indentText width (quote s) = quote (indentText width s) := by
  have hmargin := not_mem_replicate_blank (c := mark) (by decide) width
  rw [indentText, quote, quote, indentText, String.toList_ofList, String.toList_ofList,
    indentAfter_quoteChars hmargin]

/-- No line begins or ends with a newline, whatever the texts in it are. -/
theorem CheckLine.isTrimmed_text (line : CheckLine) : IsTrimmed line.text.toList := by
  cases line with
  | oneOf allowed =>
    have hback : IsTrimmed ") ;;".toList := ⟨by decide, by decide, by decide⟩
    rw [text_oneOf, String.toList_append]
    cases allowed with
    | nil => exact hback
    | cons s rest =>
      -- the line begins as its first text does
      obtain ⟨c, cs, hquote⟩ := List.exists_cons_of_ne_nil (quoteChars_ne_nil s.toList)
      have hc : c ≠ '\n' := by
        rintro rfl
        exact head?_quoteChars s.toList (by rw [hquote]; rfl)
      have hfront : IsTrimmed [c] := ⟨by simpa using hc, by simpa using hc, List.cons_ne_nil _ _⟩
      have hfirst : (quote s).toList = c :: cs := by
        rw [quote, String.toList_ofList, hquote]
      rw [String.toList_intercalate, List.map_cons, List.map_cons, hfirst,
        List.intercalate_cons_cons_left]
      exact hfront.append hback _
  | complain allowed =>
    have hfront : IsTrimmed "echo \"Error: $NAME must be one of: ".toList :=
      ⟨by decide, by decide, by decide⟩
    have hback : IsTrimmed ". Got: $VALUE\" >&2".toList := ⟨by decide, by decide, by decide⟩
    rw [text_complain, String.toList_append, String.toList_append]
    exact hfront.append hback _
  | guard | choose | otherwise | stop | endClause | endChoose | endGuard =>
    exact ⟨by decide, by decide, by decide⟩

/-- A line that is moved is the line with its texts moved: all newlines in it are in texts. -/
theorem indentAfter_text (width : Nat) (line : CheckLine) :
    indentAfter (List.replicate width ' ') line.text.toList = (line.moved width).text.toList := by
  have hnewline : "\n".toList = ['\n'] := rfl
  cases line with
  -- between the texts there is nothing to move; the texts are moved inside of their quotes
  | oneOf allowed =>
    have hback : '\n' ∉ ") ;;".toList := by decide
    have hhead : ") ;;".toList.head? ≠ some '\n' := by decide
    have hbar : '\n' ∉ "|".toList := by decide
    rw [CheckLine.moved, CheckLine.text_oneOf, CheckLine.text_oneOf, String.toList_append,
      String.toList_append, indentAfter_append (Or.inr hhead), indentAfter_of_not_mem hback,
      String.toList_intercalate, String.toList_intercalate,
      indentAfter_intercalate (by decide) hbar, List.map_map, List.map_map, List.map_map,
      List.map_map]
    refine congrArg (fun parts => "|".toList.intercalate parts ++ ") ;;".toList)
      (List.map_congr_left fun s _ => ?_)
    have hquote := congrArg String.toList (indentText_quote width s)
    rwa [indentText, String.toList_ofList] at hquote
  | complain allowed =>
    have hfront : '\n' ∉ "echo \"Error: $NAME must be one of: ".toList := by decide
    have hlast : "echo \"Error: $NAME must be one of: ".toList.getLast? ≠ some '\n' := by decide
    have hback : '\n' ∉ ". Got: $VALUE\" >&2".toList := by decide
    have hhead : ". Got: $VALUE\" >&2".toList.head? ≠ some '\n' := by decide
    have hcomma : '\n' ∉ ", ".toList := by decide
    rw [CheckLine.moved, CheckLine.text_complain, CheckLine.text_complain, String.toList_append,
      String.toList_append, String.toList_append, String.toList_append,
      indentAfter_append (Or.inr hhead), indentAfter_append (Or.inl hlast),
      indentAfter_of_not_mem hfront, indentAfter_of_not_mem hback, String.toList_intercalate,
      String.toList_intercalate, indentAfter_intercalate (by decide) hcomma, List.map_map,
      List.map_map]
    refine congrArg (fun parts => _ ++ ", ".toList.intercalate parts ++ _)
      (List.map_congr_left fun s _ => ?_)
    simp [indentText]
  -- lines without texts have no newline
  | guard | choose | otherwise | stop | endClause | endChoose | endGuard =>
    exact indentAfter_of_not_mem (by decide)

theorem toList_rowText (row : Nat × CheckLine) :
    (rowText row).toList = List.replicate row.1 ' ' ++ row.2.text.toList := by
  rw [rowText, String.toList_append, String.toList_ofList]

/-- No line begins or ends with a newline, with its margin as well. -/
theorem isTrimmed_rowText (row : Nat × CheckLine) : IsTrimmed (rowText row).toList := by
  have htext := row.2.isTrimmed_text
  rw [toList_rowText]
  cases row.1 with
  | zero => exact htext
  | succ n =>
    have hblank : IsTrimmed [' '] := ⟨by decide, by decide, by decide⟩
    exact hblank.append htext (List.replicate n ' ')

/-! ## Optional types -/

/-- A line that is moved together with its margin has a margin that is wider by as much. -/
theorem rowText_moved (width : Nat) (row : Nat × CheckLine) :
    List.replicate width ' ' ++ indentAfter (List.replicate width ' ') (rowText row).toList =
      (rowText (width + row.1, row.2.moved width)).toList := by
  have hmargin := not_mem_replicate_blank (by decide : '\n' ≠ ' ') row.1
  rw [toList_rowText, toList_rowText, indentAfter_append (Or.inr row.2.isTrimmed_text.head),
    indentAfter_of_not_mem hmargin, indentAfter_text, ← List.append_assoc,
    List.replicate_append_replicate]

section Rows

variable {rows : List (Nat × CheckLine)}

theorem toList_joinLines_rows :
    (joinLines (rows.map rowText)).toList =
      ['\n'].intercalate (rows.map fun row => (rowText row).toList) := by
  rw [joinLines, String.toList_intercalate, List.map_map]
  rfl

theorem isTrimmed_rows : ∀ line ∈ rows.map fun row => (rowText row).toList, IsTrimmed line := by
  intro line hline
  obtain ⟨row, -, rfl⟩ := List.mem_map.mp hline
  exact isTrimmed_rowText row

/-- The joined lines neither begin nor end with a newline, so the fragment can be indented as one
text. -/
theorem isTrimmed_joinLines (hne : rows ≠ []) :
    IsTrimmed (joinLines (rows.map rowText)).toList := by
  rw [toList_joinLines_rows]
  exact IsTrimmed.intercalate (by simpa using hne) isTrimmed_rows

/-- Lines that are moved to the right have wider margins, and so have the texts in them. -/
theorem joinLines_moved (hne : rows ≠ []) (width : Nat) :
    joinLines (indentLines (String.ofList (List.replicate width ' '))
        (splitNewlines (joinLines (rows.map rowText)))) =
      joinLines (rows.map fun row => rowText (width + row.1, row.2.moved width)) := by
  refine String.toList_inj.mp ?_
  rw [toList_indentLines (isTrimmed_joinLines hne), toList_joinLines_rows, String.toList_ofList,
    indentAfter_lines (by simpa using hne) isTrimmed_rows, joinLines, String.toList_intercalate,
    List.map_map, List.map_map]
  exact congrArg ['\n'].intercalate (List.map_congr_left fun row _ => rowText_moved width row)

end Rows

/-- An optional type puts a guard around the lines, and moves them. -/
theorem HasLines.guarded {text : String} {lines : List CheckLine} (h : HasLines text lines)
    (hne : lines ≠ []) :
    HasLines (optionalCheck text) (.guard :: (lines.map (CheckLine.moved 2) ++ [.endGuard])) := by
  obtain ⟨rows, rfl, rfl⟩ := h
  have hrows : rows ≠ [] := by simpa using hne
  let movedRows := rows.map fun row => (2 + row.1, row.2.moved 2)
  have hmovedRows : movedRows.map rowText ≠ [] := by simpa [movedRows] using hrows
  have hlast := (isTrimmed_joinLines hrows).last
  -- the newline at the end is taken off before the lines are moved
  have hend : joinLines (rows.map rowText ++ [""]) = joinLines (rows.map rowText) ++ "\n" := by
    rw [joinLines_append (by simpa using hrows) (List.cons_ne_nil _ _)]
    exact String.append_empty
  have hnonempty : (joinLines (rows.map rowText) ++ "\n").isEmpty = false := by
    simp [String.isEmpty_eq_false_iff]
  have hbody : indentLines "  " (splitNewlines (joinLines (rows.map rowText))) ≠ [] := by
    simpa [indentLines, splitNewlines] using cutAtNewlines_ne_nil _
  have hmoved : joinLines (indentLines "  " (splitNewlines (joinLines (rows.map rowText)))) =
      joinLines (movedRows.map rowText) := by
    rw [List.map_map]
    exact joinLines_moved hrows 2
  have hopen : rowText (0, .guard) = "if [ -n \"$VALUE\" ]; then" := rfl
  have hclose : rowText (0, .endGuard) = "fi" := rfl
  refine ⟨(0, .guard) :: (movedRows ++ [(0, .endGuard)]), by simp [movedRows], ?_⟩
  have hall : ((0, .guard) :: (movedRows ++ [(0, .endGuard)])).map rowText ++ [""] =
      (["if [ -n \"$VALUE\" ]; then"] ++ movedRows.map rowText) ++ ["fi", ""] := by
    simp [hopen, hclose]
  rw [optionalCheck, hend, hnonempty, stripNewlines_append hlast, if_neg Bool.false_ne_true, hall,
    joinLines_append (by simp) (by simp), joinLines_append (by simp) hbody, hmoved,
    joinLines_append (by simp) (by simp), joinLines_append (by simp) hmovedRows]

@[simp]
theorem runtimeCheck_optional (t : InputType) :
    t.optional.runtimeCheck = optionalCheck t.runtimeCheck := rfl

@[simp]
theorem runtimeCheck_ofTexts (allowed : List String) :
    (ofTexts allowed).runtimeCheck = enumCheck allowed := rfl

/-- The lines of an enumeration that is moved are those of the enumeration of the moved texts. -/
theorem map_moved_enumLines (width : Nat) (allowed : List String) :
    (enumLines allowed).map (CheckLine.moved width) =
      enumLines (allowed.map (indentText width)) := rfl

/-- The lines of an enumeration in any number of optional types: so many guards, and its own lines
with the texts in them moved as often. -/
theorem hasLines_nested (n : Nat) (allowed : List String) :
    HasLines (optional^[n] (ofTexts allowed)).runtimeCheck
      (List.replicate n .guard ++ enumLines (allowed.map (indentText (2 * n)))
        ++ List.replicate n .endGuard) := by
  induction n with
  | zero =>
    have hsame : allowed.map (indentText (2 * 0)) = allowed := by
      rw [List.map_congr_left fun s _ => indentText_zero s, List.map_id']
    rw [hsame]
    simpa using hasLines_enumCheck allowed
  | succ n ih =>
    have hne : List.replicate n CheckLine.guard ++ enumLines (allowed.map (indentText (2 * n)))
        ++ List.replicate n .endGuard ≠ [] := by
      simp [enumLines]
    -- the texts are moved once more, by the margin of one more type
    have hmoved : (allowed.map (indentText (2 * n))).map (indentText 2) =
        allowed.map (indentText (2 * (n + 1))) := by
      rw [List.map_map, show 2 * (n + 1) = 2 + 2 * n by omega]
      exact List.map_congr_left fun s _ => indentText_indentText 2 (2 * n) s
    have hguarded := ih.guarded hne
    rw [List.map_append, List.map_append, List.map_replicate, List.map_replicate,
      map_moved_enumLines, hmoved] at hguarded
    rw [Function.iterate_succ_apply', List.replicate_succ, List.replicate_succ']
    simpa [CheckLine.moved] using hguarded

/-! ## What is read in the lines

The alternatives of a fragment are found without reading the whole of it: they stand below the first
line that ends like the head of a `case`. -/

/-- The word that is read in a quoted text. -/
theorem exists_literal (s : String) :
    ∃ word, Spells (quoteChars s.toList) word ∧ word.expanded = [] ∧ word.literal? = some s := by
  obtain ⟨word, hspells, hchars, hexpanded⟩ := exists_spells_quoteChars s.toList
  refine ⟨word, hspells, hexpanded, ?_⟩
  rw [literal?_of_expanded_eq_nil (isInner_of_spells hspells) hexpanded fun _ => "", Word.text,
    hchars, String.ofList_toList]

theorem not_mem_rowText {line : CheckLine} (h : '\n' ∉ line.text.toList) (margin : Nat) :
    '\n' ∉ (rowText (margin, line)).toList := by
  rw [toList_rowText, List.mem_append, not_or]
  exact ⟨not_mem_replicate_blank (by decide) margin, h⟩

/-- The first line of a guard does not end like the line before a pattern, so a reader of patterns
passes over it. -/
theorem isSuffixOf_guard (margin : Nat) :
    " in".toList.isSuffixOf (rowText (margin, .guard)).toList = false := by
  have hend : CheckLine.guard.text.toList.reverse = 'n' :: 'e' :: _ := rfl
  rw [toList_rowText, List.isSuffixOf, List.reverse_append, hend]
  rfl

/-- The line before a pattern is found by its end, at whatever margin it stands. -/
theorem isSuffixOf_choose (margin : Nat) :
    " in".toList.isSuffixOf (rowText (margin, .choose)).toList = true := by
  have hend : CheckLine.choose.text.toList.reverse = 'n' :: 'i' :: ' ' :: _ := rfl
  rw [toList_rowText, List.isSuffixOf, List.reverse_append, hend]
  rfl

/-- The words that are read in the pattern for some texts, whatever they are. -/
theorem exists_readsPattern (allowed : List String) :
    ∃ words, ReadsPattern ("|".intercalate (allowed.map quote)).toList words
      ∧ words.map Word.literal? = allowed.map some ∧ ∀ word ∈ words, word.expanded = [] := by
  choose word hspells hexpanded hliteral using exists_literal
  -- each text with the word that its quoted form spells
  let rows : List (List Char × Word) := allowed.map fun s => (quoteChars s.toList, word s)
  have hrows : ∀ row ∈ rows, Spells row.1 row.2 := by
    intro row hrow
    obtain ⟨s, -, rfl⟩ := List.mem_map.mp hrow
    exact hspells s
  have hpattern : ("|".intercalate (allowed.map quote)).toList =
      ['|'].intercalate (rows.map Prod.fst) := by
    have hfst : rows.map Prod.fst = (allowed.map quote).map String.toList := by
      simp [rows, quote]
    rw [String.toList_intercalate, hfst]
    rfl
  refine ⟨rows.map Prod.snd, hpattern ▸ readsPattern_of_spells hrows, ?_, ?_⟩
  · rw [List.map_map, List.map_map]
    exact List.map_congr_left fun s _ => hliteral s
  · intro w hw
    simp only [rows, List.map_map, List.mem_map] at hw
    obtain ⟨s, -, rfl⟩ := hw
    exact hexpanded s

theorem ne_nil_of_literal {words : List Word} {allowed : List String} (hne : allowed ≠ [])
    (h : words.map Word.literal? = allowed.map some) : words ≠ [] := by
  rintro rfl
  exact hne (by simpa using h.symm)

/-- The pattern of the first `case` holds the texts, whatever they are and whatever comes after. -/
theorem HasLines.alternatives? {text : String} {guards rest : List CheckLine}
    {allowed : List String} (hguards : ∀ line ∈ guards, line = .guard) (hne : allowed ≠ [])
    (h : HasLines text (guards ++ .choose :: .oneOf allowed :: rest)) :
    Shell.alternatives? text = some allowed := by
  obtain ⟨rows, hrows, rfl⟩ := h
  obtain ⟨before, rows', rfl, hbefore, hfound⟩ := List.map_eq_append_iff.mp hrows
  obtain ⟨⟨margin, _⟩, rows'', rfl, rfl, hbelow⟩ := List.map_eq_cons_iff.mp hfound
  obtain ⟨⟨margin', _⟩, after, rfl, rfl, -⟩ := List.map_eq_cons_iff.mp hbelow
  obtain ⟨words, hpattern, hliteral, -⟩ := exists_readsPattern allowed
  -- the lines in front are guards, in which nothing looks like the head of a `case`
  have hplain : ∀ line ∈ before.map fun row => (rowText row).toList,
      '\n' ∉ line ∧ " in".toList.isSuffixOf line = false := by
    intro line hline
    obtain ⟨⟨depth, line⟩, hrow, rfl⟩ := List.mem_map.mp hline
    obtain rfl : line = .guard := hguards line (hbefore ▸ List.mem_map_of_mem hrow)
    exact ⟨not_mem_rowText (by decide) depth, isSuffixOf_guard depth⟩
  have hchoose : '\n' ∉ (rowText (margin, .choose)).toList := not_mem_rowText (by decide) margin
  have hline : (rowText (margin', .oneOf allowed)).toList = List.replicate margin' ' '
      ++ ("|".intercalate (allowed.map quote)).toList ++ ") ;;".toList := by
    rw [toList_rowText, CheckLine.text_oneOf, String.toList_append, List.append_assoc]
  let after' := after.map (fun row => (rowText row).toList) ++ [[]]
  have hscript : (joinLines ((before ++ (margin, .choose) :: (margin', .oneOf allowed) :: after).map
      rowText ++ [""])).toList = ['\n'].intercalate
        (before.map (fun row => (rowText row).toList) ++ (rowText (margin, .choose)).toList
          :: (rowText (margin', .oneOf allowed)).toList :: after') := by
    rw [joinLines, String.toList_intercalate]
    simp [after', Function.comp_def]
  rw [hline] at hscript
  exact alternatives?_of_text hplain ⟨hchoose, isSuffixOf_choose margin⟩ hpattern
    (ne_nil_of_literal hne hliteral) hliteral hscript

end ShellFlow.InputType

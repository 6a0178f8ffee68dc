import Mathlib.Tactic.Choose
import ShellFlow.Proofs.Shell.FilledLists

/-!
# Values as words

The quoted text of a value stands for one or more words of a command, or for none. Whatever texts
are in the value, a shell that cuts the text at its blanks finds one word for each leaf that is
there, in order, and each of these words stands for the text of its leaf.

* **`words?`** — the words of a text that is one line.
* **`run_separated`** — texts that spell words, with a separator between each two of them, are read
  one by one. Induction on the texts.
* **`wordsOf_intercalate`** — the words are found again between the blanks; those that are empty
  are lost.
* **`exists_word`** — one leaf.
* **`toShell_words`** — all values.
-/

namespace ShellFlow

namespace Value

/-- The leaves of a value but for those that are absent. -/
def presentLeaves (v : Value) : List Value := v.leaves.filter fun leaf => !leaf.isNull

/-- What stands for an empty list in the slots is absent. -/
theorem filter_slots (v : Value) : (v.slots.filter fun slot => !slot.isNull) = v.presentLeaves := by
  unfold presentLeaves
  induction v using sequenceInduction with
  | list items ih | tuple items ih =>
    cases items with
    | nil => rfl
    | cons item rest =>
      simp only [slots_list_cons, slots_tuple_cons, leaves_list, leaves_tuple, List.filter_flatMap]
      exact List.flatMap_congr ih
  | leaf v h => rw [slots_of_not_isSequence h, leaves_of_not_isSequence h]

end Value

namespace Shell

/-- The words of a text that is one line, with no command in it but a simple one. -/
def words? (text : String) : Option (List Word) := do
  let marks ← marks? text
  if marks.any Mark.isActive || marks.contains (.bare '\n') then none else some (wordsOf marks)

/-! ## Where a word starts -/

/-- Only a number sign is read differently where a word may start. -/
theorem step_outside {c : Char} (h : c ≠ '#') (atStart : Bool) :
    step (.outside atStart) c = step (.outside false) c := by
  simp [step, stepOutside, h]

/-- A separator outside of quotes is read as it is, and a word may start after it. -/
theorem step_separator {c : Char} (h : isSeparator c = true) (atStart : Bool) :
    step (.outside atStart) c = some ([.bare c], .outside true) := by
  have hmem : c ∈ '\n' :: (blanks ++ operators) := by
    simpa [isSeparator, or_assoc] using h
  simp only [blanks, operators, List.cons_append, List.nil_append, List.mem_cons, List.not_mem_nil,
    or_false] at hmem
  rcases hmem with rfl | rfl | rfl | rfl | rfl | rfl | rfl | rfl | rfl | rfl <;>
    cases atStart <;> rfl

/-- A word never begins with the sign that would make it a comment. -/
theorem ne_hash_of_spells {c : Char} {cs : List Char} {word : Word} (h : Spells (c :: cs) word) :
    c ≠ '#' := by
  generalize hall : c :: cs = all at h
  cases h with
  | nil => cases hall
  | safe d hd _ =>
    injection hall with hc
    rw [hc]
    exact ne_of_isSafe hd (by decide)
  | single | double | quotedExpansion =>
    injection hall with hc
    rw [hc]
    decide
  | expansion name _ _ =>
    rw [expansionChars, List.cons_append] at hall
    injection hall with hc
    rw [hc]
    decide

/-- A spelled text is read alike inside of a word and where one may start. -/
theorem run_of_spells_from {cs : List Char} {word : Word} (h : Spells cs word) (atStart : Bool) :
    ∃ inStart, run (.outside atStart) cs = some (word, .outside inStart) := by
  cases cs with
  | nil =>
    cases h
    exact ⟨atStart, rfl⟩
  | cons c rest =>
    refine ⟨false, ?_⟩
    rw [← run_of_spells h, run, run, step_outside (ne_hash_of_spells h)]

/-- A word has a mark exactly if its spelling has a character: even an empty text is spelled with
two quotation marks. -/
theorem isEmpty_of_spells {cs : List Char} {word : Word} (h : Spells cs word) :
    word.isEmpty = cs.isEmpty := by
  cases h <;> rfl

/-- A text spells one word only, the one that is read. -/
theorem Spells.unique {cs : List Char} {word word' : Word} (h : Spells cs word)
    (h' : Spells cs word') : word = word' := by
  have hrun := run_of_spells h
  rw [run_of_spells h'] at hrun
  injection hrun with hrun
  injection hrun with hword
  exact hword.symm

/-! ## Words with separators in between

Each word is read from a place where a word may start to one where it may end, and the separator
leads from there to the next. -/

/-- What holds of the separator and of all parts holds of everything that is put together from
them. -/
theorem forall_mem_intercalate {α : Type} {p : α → Prop} {separator : List α} {l : List (List α)}
    (hseparator : ∀ a ∈ separator, p a) (h : ∀ w ∈ l, ∀ a ∈ w, p a) :
    ∀ a ∈ separator.intercalate l, p a := by
  induction l with
  | nil => simp
  | cons w rest ih =>
    have hrest := ih fun u hu => h u (List.mem_cons_of_mem _ hu)
    have hw := h w List.mem_cons_self
    cases rest with
    | nil => simpa using hw
    | cons next more =>
      rw [List.intercalate_cons_cons]
      exact List.forall_mem_append.mpr ⟨List.forall_mem_append.mpr ⟨hw, hseparator⟩, hrest⟩

theorem mem_intercalate {α : Type} {separator part : List α} {parts : List (List α)} {a : α}
    (ha : a ∈ part) (hpart : part ∈ parts) : a ∈ separator.intercalate parts := by
  induction parts with
  | nil => cases hpart
  | cons first rest ih =>
    cases rest with
    | nil =>
      rw [List.intercalate_singleton]
      rwa [← List.mem_singleton.mp hpart]
    | cons next more =>
      rw [List.intercalate_cons_cons]
      rcases List.mem_cons.mp hpart with rfl | hmem
      · exact List.mem_append_left _ (List.mem_append_left _ ha)
      · exact List.mem_append_right _ (ih hmem)

/-- Texts that spell words are read one by one, with a separator between each two of them. -/
theorem run_separated {separator : Char} (hseparator : isSeparator separator = true)
    {rows : List (List Char × Word)} (h : ∀ row ∈ rows, Spells row.1 row.2) (atStart : Bool) :
    ∃ inStart, run (.outside atStart) ([separator].intercalate (rows.map Prod.fst)) =
      some ([Mark.bare separator].intercalate (rows.map Prod.snd), .outside inStart) := by
  induction rows generalizing atStart with
  | nil => exact ⟨atStart, rfl⟩
  | cons row rest ih =>
    obtain ⟨inWord, hrow⟩ := run_of_spells_from (h row List.mem_cons_self) atStart
    cases rest with
    | nil => exact ⟨inWord, by simpa using hrow⟩
    | cons next more =>
      obtain ⟨inStart, hrest⟩ := ih (fun r hr => h r (List.mem_cons_of_mem _ hr)) true
      have hall := run_trans hrow (run_cons (step_separator hseparator inWord) hrest)
      exact ⟨inStart, by simpa [List.intercalate_cons_cons] using hall⟩

/-- Between blanks the words are found again. Where two blanks meet there is none. -/
theorem wordsOf_intercalate {words : List Word} (h : ∀ word ∈ words, ∀ m ∈ word, m.IsInner) :
    wordsOf ([Mark.bare ' '].intercalate words) = words.filter fun word => !word.isEmpty := by
  induction words with
  | nil => rfl
  | cons word rest ih =>
    have hword : ∀ m ∈ word, m.isBlank = false := fun m hm => (h word List.mem_cons_self m hm).2.1
    cases rest with
    | nil =>
      rw [List.intercalate_singleton, wordsOf_eq_self (h word List.mem_cons_self)]
      cases word <;> rfl
    | cons next more =>
      have hrest := ih fun w hw => h w (List.mem_cons_of_mem _ hw)
      have hblank : (Mark.bare ' ').isBlank = true := by decide
      unfold wordsOf at hrest ⊢
      rw [List.intercalate_cons_cons, List.append_assoc, List.singleton_append,
        List.splitOnP_append_cons_of_forall_mem hword _ hblank, List.filter_cons, hrest]
      cases word <;> rfl

/-- A reading that ends outside of quotes has all marks of the script. -/
theorem marks?_of_run {script : String} {marks : List Mark} {inStart : Bool}
    (h : run (.outside true) script.toList = some (marks, .outside inStart)) :
    marks? script = some marks := by
  simp [marks?, h, Place.finish]

/-- A text of words with blanks in between has these words, but for the empty ones. -/
theorem words?_of_separated {text : String} {rows : List (List Char × Word)}
    (htext : text.toList = [' '].intercalate (rows.map Prod.fst))
    (h : ∀ row ∈ rows, Spells row.1 row.2) :
    words? text = some ((rows.map Prod.snd).filter fun word => !word.isEmpty) := by
  obtain ⟨inStart, hrun⟩ := run_separated (by decide : isSeparator ' ' = true) h true
  -- no word has a blank outside of quotes, so the cuts are the blanks in between
  have hinner : ∀ word ∈ rows.map Prod.snd, ∀ m ∈ word, m.IsInner := by
    intro word hword
    obtain ⟨row, hrow, rfl⟩ := List.mem_map.mp hword
    exact isInner_of_spells (h row hrow)
  have hmarks : marks? text = some ([Mark.bare ' '].intercalate (rows.map Prod.snd)) :=
    marks?_of_run (htext ▸ hrun)
  have hsimple : ∀ m ∈ [Mark.bare ' '].intercalate (rows.map Prod.snd),
      m.isActive = false ∧ m ≠ .bare '\n' :=
    forall_mem_intercalate (by decide) fun word hword m hm =>
      ⟨(hinner word hword m hm).2.2, (hinner word hword m hm).1⟩
  have hactive : ([Mark.bare ' '].intercalate (rows.map Prod.snd)).any Mark.isActive = false :=
    List.any_eq_false.mpr fun m hm => by simp [(hsimple m hm).1]
  have hnewline : ([Mark.bare ' '].intercalate (rows.map Prod.snd)).contains (.bare '\n') = false :=
    Bool.eq_false_iff.mpr fun hmem => (hsimple _ (List.contains_iff_mem.mp hmem)).2 rfl
  unfold words?
  rw [hmarks, Option.bind_eq_bind, Option.bind_some, hactive, hnewline, wordsOf_intercalate hinner]
  rfl

/-! ## Leaves -/

theorem expanded?_of_mem {q : Bool} {name : String} {word : Word}
    (h : Mark.expansion q name ∈ word) : name ∈ word.expanded :=
  List.mem_filterMap.mpr ⟨_, h, rfl⟩

theorem isSequence_of_hasShellText {leaf : Value} (h : leaf.hasShellText = true) :
    leaf.isSequence = false := by
  cases leaf with
  | list _ | tuple _ => cases h
  | null | bool _ | int _ | float _ | text _ | mapping _ | path _ | bytes _ | object _ _
  | struct _ _ _ | noDefault | reference _ => rfl

/-- The text of a number is never empty, so it makes a word without quotes. -/
theorem toList_intText_ne_nil (i : Int) : (toString i).toList ≠ [] := by
  rw [Int.toString_eq_repr, Int.repr_eq_if]
  split
  · rw [Nat.toList_repr]
    exact Nat.toDigits_ne_nil
  · simp

open Decimal in
theorem toList_floatText_ne_nil (x : Binary64) : (Value.floatLayout.write x).toList ≠ [] := by
  cases x with
  | nan payload =>
    show "nan".toList ≠ []
    decide
  | infinity negative =>
    cases negative
    · show "inf".toList ≠ []
      decide
    · show "-inf".toList ≠ []
      decide
  | finite negative m e =>
    have hdigits : (if m = 0 then ['0', '.', '0']
        else Value.floatLayout.writeDigits (shortest m e)) ≠ [] := by
      split
      · simp
      · unfold Layout.writeDigits
        dsimp only
        split
        · unfold Layout.positional
          dsimp only
          split
          · simp
          · split <;> simp
        · -- there is a first digit
          obtain ⟨d, rest, hd⟩ := List.exists_cons_of_ne_nil
            (@Nat.toDigits_ne_nil (shortest m e).digits 10)
          rw [hd]
          cases rest <;> simp [Layout.scientific]
    unfold Layout.write
    dsimp only
    rw [String.toList_ofList]
    cases negative
    · exact hdigits
    · simp

/-- Only an absent value has the empty text. -/
theorem isEmpty_toList_eq_isNull {leaf : Value} {s : String} (h : toShell true leaf = .ok s)
    (hseq : leaf.isSequence = false) : s.toList.isEmpty = leaf.isNull := by
  -- a text has its quotes, also if it is empty
  have hquote : ∀ t : String, (quote t).toList.isEmpty = false := by
    intro t
    rw [quote, String.toList_ofList, List.isEmpty_eq_false_iff]
    exact quoteChars_ne_nil t.toList
  cases leaf with
  | list _ | tuple _ => cases hseq
  | null =>
    cases h
    rfl
  | bool b => cases b <;> cases h <;> rfl
  | int i =>
    cases h
    exact List.isEmpty_eq_false_iff.mpr (toList_intText_ne_nil i)
  | float x =>
    cases h
    exact List.isEmpty_eq_false_iff.mpr (toList_floatText_ne_nil x)
  | text t | path t =>
    cases h
    exact hquote t
  | reference r =>
    cases h
    simp [referenceWord, Value.isNull]
  | mapping _ | bytes _ | object _ _ | struct _ _ _ | noDefault => cases h

/-- The quoted text of a leaf is a word that stands for the text of the leaf. It is empty if the
leaf is absent, and what it expands stands in double quotes. -/
theorem exists_word {leaf : Value} (h : leaf.hasShellText = true)
    (hname : ∀ r, leaf = .reference r → isIdentifier r.var = true) :
    ∃ (s : String) (word : Word), toShell true leaf = .ok s ∧ Spells s.toList word
      ∧ (∀ env, leafText env leaf = .ok (word.text env))
      ∧ word.expanded = (leafVariable? leaf).toList
      ∧ word.isEmpty = leaf.isNull
      ∧ ∀ name, Mark.expansion false name ∉ word := by
  have hseq := isSequence_of_hasShellText h
  have hleaf : ∃ s, toShell true leaf = .ok s := by
    cases leaf with
    | null | int _ | float _ | text _ | path _ | reference _ => exact ⟨_, rfl⟩
    | bool b => cases b <;> exact ⟨_, rfl⟩
    | list _ | tuple _ | mapping _ | bytes _ | object _ _ | struct _ _ _ | noDefault => cases h
  obtain ⟨s, hs⟩ := hleaf
  obtain ⟨word, hspells, htext, hvars⟩ := exists_spells_toShell hseq hname hs
  refine ⟨s, word, hs, hspells, htext, hvars, ?_, ?_⟩
  · rw [isEmpty_of_spells hspells, isEmpty_toList_eq_isNull hs hseq]
  · intro name hmem
    have hexpanded := expanded?_of_mem hmem
    rw [hvars] at hexpanded
    cases leaf with
    | reference r =>
      -- the quotes around the expansion were written with it
      cases hs
      have hquoted := Spells.quotedExpansion r.var (hname r rfl) Spells.nil
      have htoList : (referenceWord true r).toList = '"' :: (expansionChars r.var ++ ['"']) := by
        simp [referenceWord, toList_expansion]
      rw [htoList] at hspells
      rw [hspells.unique hquoted] at hmem
      simp at hmem
    | _ => cases hexpanded

/-! ## Values -/

/-- **The quoted text of a value, cut at its blanks**: one word for each leaf that is not absent, in
order, each of which stands for the text of its leaf in every environment. What the words expand
stands in double quotes, so that no blank in a variable cuts a word in two. The text has a place for
every slot of the value. An empty place between two blanks is no word, which is how absent leaves
and empty lists drop out. -/
theorem toShell_words {v : Value} (h : v.IsSupported) (hname : v.HasVariableNames) :
    ∃ (s : String) (words : List Word), toShell true v = .ok s ∧ words? s = some words
      ∧ (∀ env, v.presentLeaves.mapM (leafText env) = .ok (words.map (Word.text env)))
      ∧ words.map Word.expanded = v.presentLeaves.map (fun leaf => (leafVariable? leaf).toList)
      ∧ ∀ word ∈ words, ∀ name, Mark.expansion false name ∉ word := by
  have hsupported := hasShellText_of_mem_slots h
  have hvar : ∀ slot ∈ v.slots, ∀ r, slot = .reference r → isIdentifier r.var = true := by
    rintro slot hslot r rfl
    refine isIdentifier_var fun name hr => hname name ?_
    rcases Value.mem_leaves_of_mem_slots v _ hslot with hnull | hleaf
    · cases hnull
    · rwa [← hr]
  have hwords := fun slot hslot => exists_word (hsupported slot hslot) (hvar slot hslot)
  choose! text word htoShell hspells htext hexpanded hempty hquoted using hwords
  let rows : List (List Char × Word) := v.slots.map fun slot => ((text slot).toList, word slot)
  have hrows : ∀ row ∈ rows, Spells row.1 row.2 := by
    simpa [rows] using hspells
  -- the words that are found are those of the leaves that are there
  have hfilter : (v.slots.map word).filter (fun w => !w.isEmpty) = v.presentLeaves.map word := by
    rw [List.filter_map, ← Value.filter_slots]
    refine congrArg (List.map word) (List.filter_congr fun slot hslot => ?_)
    simp [hempty slot hslot]
  have hpresent : ∀ leaf ∈ v.presentLeaves, leaf ∈ v.slots := by
    rw [← Value.filter_slots]
    exact fun leaf hleaf => List.mem_of_mem_filter hleaf
  refine ⟨" ".intercalate (v.slots.map text), v.presentLeaves.map word, ?_, ?_, ?_, ?_, ?_⟩
  · rw [toShell_eq_slots, joined, Success.mapM_eq_ok_map htoShell]
    rfl
  · have htoList : (" ".intercalate (v.slots.map text)).toList =
        [' '].intercalate (rows.map Prod.fst) := by
      simp [rows, String.toList_intercalate, Function.comp_def]
    have hsnd : rows.map Prod.snd = v.slots.map word := by
      simp [rows]
    rw [words?_of_separated htoList hrows, hsnd, hfilter]
  · intro env
    rw [List.map_map]
    exact Success.mapM_eq_ok_map fun leaf hleaf => htext leaf (hpresent leaf hleaf) env
  · rw [List.map_map]
    exact List.map_congr_left fun leaf hleaf => hexpanded leaf (hpresent leaf hleaf)
  · simpa using fun leaf hleaf => hquoted leaf (hpresent leaf hleaf)

/-- A text with quotes, a host that is known when the script runs, and three kinds of nothing. -/
def argumentList : Value :=
  .list [.text "it's $(here)\n", .tuple [.null, .reference (.envVar "HOST")], .list [], .text ""]

/-- The empty text is a word of its own; the absent value and the empty list are none. -/
theorem toShell_words_arguments :
    argumentList.IsSupported ∧ argumentList.HasVariableNames
    ∧ ∃ (s : String) (words : List Word), toShell true argumentList = .ok s ∧ words? s = some words
        ∧ ∀ env, words.map (Word.text env) = ["it's $(here)\n", env "HOST", ""] := by
  have hleaves : argumentList.leaves =
      [.text "it's $(here)\n", .null, .reference (.envVar "HOST"), .text ""] := rfl
  have hsupported : argumentList.IsSupported := by
    simp [Value.IsSupported, hleaves, Value.hasShellText]
  have hname : argumentList.HasVariableNames := by
    intro name hname
    simp only [hleaves, List.mem_cons, List.not_mem_nil, or_false, reduceCtorEq, false_or] at hname
    cases hname
    decide
  obtain ⟨s, words, hs, hwords, htext, -, -⟩ := toShell_words hsupported hname
  refine ⟨hsupported, hname, s, words, hs, hwords, fun env => ?_⟩
  have hraw : argumentList.presentLeaves.mapM (leafText env) =
      .ok ["it's $(here)\n", env "HOST", ""] := rfl
  exact Except.ok.inj ((htext env).symm.trans hraw)

end Shell

end ShellFlow

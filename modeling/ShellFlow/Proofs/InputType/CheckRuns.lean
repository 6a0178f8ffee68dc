import ShellFlow.Proofs.InputType.CheckLines

/-!
# Runs of an enumeration's check

What the lines of an enumeration's check do when the script runs. In the message the texts stand as
they are, so they must be plain: nothing in them may be special inside of double quotes.

* **`CheckLine.exists_readsAs`** — each line is one instruction.
* **`HasLines.instructions`** — a fragment is a script of the instructions of its lines.
* **`passes?_nested`** — which values pass, with any number of optional types around the
  enumeration.
-/

namespace ShellFlow.InputType

open Shell Text

/-! ## Plain texts -/

/-- True of a text that stands for itself inside of double quotes. -/
def IsPlainText (s : String) : Prop := ∀ c ∈ s.toList, isPlainInDouble c = true

instance (s : String) : Decidable (IsPlainText s) :=
  decidable_of_iff (s.toList.all isPlainInDouble = true) List.all_eq_true

/-- A text that is plain stays so when it is moved: a blank is plain too. -/
theorem isPlainText_indentText {s : String} (h : IsPlainText s) (width : Nat) :
    IsPlainText (indentText width s) := by
  intro c hc
  rw [indentText, String.toList_ofList] at hc
  rcases mem_or_mem_of_mem_indentAfter hc with hmem | hblank
  · exact h c hmem
  · rw [List.eq_of_mem_replicate hblank]
    decide

/-- The texts of an enumeration are plain also when they are joined in the message. -/
theorem isPlainInDouble_message {allowed : List String} (h : ∀ s ∈ allowed, IsPlainText s) :
    ∀ c ∈ (", ".intercalate allowed).toList, isPlainInDouble c = true := by
  rw [String.toList_intercalate]
  refine forall_mem_intercalate (List.all_eq_true.mp (by decide)) fun cs hcs => ?_
  obtain ⟨s, hs, rfl⟩ := List.mem_map.mp hcs
  exact h s hs

/-! ## Instructions -/

def valueWord : Word := [.quote, .expansion true "VALUE", .quote]

/-- The complaint about the value, as a word. -/
def complaintWord (message : List Char) : Word :=
  .quote :: "Error: ".toList.map .quoted ++ .expansion true "NAME"
    :: " must be one of: ".toList.map .quoted ++ message.map .quoted
    ++ ". Got: ".toList.map .quoted ++ [.expansion true "VALUE", .quote]

/-- Everything in the complaint stands in quotes. -/
theorem forall_mem_complaintWord {p : Mark → Prop} (hquote : p .quote)
    (hquoted : ∀ c, p (.quoted c)) (hexpansion : ∀ name, p (.expansion true name))
    (message : List Char) : ∀ m ∈ complaintWord message, p m := by
  intro m hm
  simp only [complaintWord, List.mem_append, List.mem_cons, List.mem_map, List.not_mem_nil,
    or_false] at hm
  obtain ((((rfl | ⟨c, -, rfl⟩) | rfl | ⟨c, -, rfl⟩) | ⟨c, -, rfl⟩) | ⟨c, -, rfl⟩) | rfl | rfl := hm
  all_goals first | exact hquote | exact hquoted c | exact hexpansion _

namespace CheckLine

def instruction : CheckLine → Instruction
  | guard => .ifSome valueWord
  | choose => .caseOf valueWord
  | oneOf allowed => .clause allowed
  | otherwise => .otherwise
  | complain _ => .echo
  | stop => .exit
  | endClause => .endClause
  | endChoose => .endCase
  | endGuard => .endIf

/-- True of a line that is read as it is meant. -/
def IsReadable : CheckLine → Prop
  | oneOf allowed => allowed ≠ []
  | complain allowed => ∀ s ∈ allowed, IsPlainText s
  | _ => True

/-- The line of the pattern is read as a clause with the allowed texts as its alternatives. It is two
words, the pattern with its closing parenthesis and what ends the clause; no blank in a text cuts the
first one, as the texts are quoted. -/
theorem exists_readsAs_oneOf {allowed : List String} (hne : allowed ≠ []) :
    ∃ words, ReadsAs (oneOf allowed).text.toList words
      ∧ Instruction.ofWords? words = some (.clause allowed) := by
  obtain ⟨words, hpattern, hliteral, -⟩ := exists_readsPattern allowed
  obtain ⟨inStart, hrun⟩ := hpattern.1
  let bars := [Mark.bare '|'].intercalate words
  -- after a text in quotes or without them, the parenthesis ends the pattern
  have hback : run (.outside inStart) ") ;;".toList =
      some (.bare ')' :: .bare ' ' :: keyword ";;", .outside true) := by
    cases inStart <;> rfl
  have hblank : ∀ m ∈ bars ++ [.bare ')'], m.isBlank = false := by
    refine List.forall_mem_append.mpr ⟨fun m hm => (hpattern.isPart m hm).1, ?_⟩
    decide
  have hwords : wordsOf (bars ++ .bare ')' :: .bare ' ' :: keyword ";;") =
      [bars ++ [.bare ')'], keyword ";;"] := by
    have hspace : (Mark.bare ' ').isBlank = true := by decide
    have hcut := wordsOf_append_blank (by simp) hblank hspace (keyword ";;")
    rw [List.append_assoc, List.singleton_append] at hcut
    rw [hcut]
    rfl
  refine ⟨[bars ++ [.bare ')'], keyword ";;"], ⟨_, true, ?_, ?_, hwords⟩, ?_⟩
  · rw [text_oneOf, String.toList_append]
    exact run_trans hrun hback
  · rw [List.mem_append, not_or]
    exact ⟨fun hmem => (hpattern.isPart _ hmem).2.2 rfl, by decide⟩
  · -- the line is no `exit 1`, so its last character decides what it is
    have hexit : ¬ (bars ++ [Mark.bare ')'] = keyword "exit" ∧ keyword ";;" = keyword "1") :=
      fun hboth => absurd hboth.2 (by decide)
    have hclause : (bars ++ [Mark.bare ')']).getLast? = some (.bare ')')
        ∧ keyword ";;" = keyword ";;" := ⟨List.getLast?_concat .., rfl⟩
    rw [Instruction.ofWords?, if_neg hexit, if_pos hclause, List.dropLast_concat,
      hpattern.alternativesOf? (ne_nil_of_literal hne hliteral) hliteral]
    rfl

/-- The line of the complaint is read as an `echo`, of one word in double quotes. The texts stand in
that word as they are, which is why they have to be plain. -/
theorem exists_readsAs_complain {allowed : List String} (hplain : ∀ s ∈ allowed, IsPlainText s) :
    ∃ words, ReadsAs (complain allowed).text.toList words
      ∧ Instruction.ofWords? words = some .echo := by
  let message := (", ".intercalate allowed).toList
  -- up to the message, the message, and what comes behind it
  have hfront : run (.outside true) "echo \"Error: $NAME must be one of: ".toList =
      some (keyword "echo" ++ .bare ' ' :: .quote :: "Error: ".toList.map .quoted
        ++ .expansion true "NAME" :: " must be one of: ".toList.map .quoted, .inDouble) := rfl
  have hback : run .inDouble ". Got: $VALUE\" >&2".toList =
      some (". Got: ".toList.map .quoted ++ [.expansion true "VALUE", .quote]
        ++ .bare ' ' :: keyword ">&2", .outside false) := rfl
  have hmessage : run .inDouble message = some (message.map .quoted, .inDouble) :=
    run_inDouble (isPlainInDouble_message hplain)
  have hquoted : ∀ m ∈ complaintWord message,
      m.isBlank = false ∧ m.isWhole = true ∧ m ≠ .bare '\n' :=
    forall_mem_complaintWord ⟨rfl, rfl, nofun⟩ (fun _ => ⟨rfl, rfl, nofun⟩)
      (fun _ => ⟨rfl, rfl, nofun⟩) message
  have hwords : wordsOf (keyword "echo" ++ .bare ' ' :: (complaintWord message
      ++ .bare ' ' :: keyword ">&2")) =
        [keyword "echo", complaintWord message, keyword ">&2"] := by
    have hblank : (Mark.bare ' ').isBlank = true := by decide
    rw [wordsOf_append_blank (by decide) (by decide) hblank,
      wordsOf_append_blank (by simp [complaintWord]) (fun m hm => (hquoted m hm).1) hblank]
    rfl
  refine ⟨_, ⟨_, false, ?_, ?_, hwords⟩, ?_⟩
  · have hall := run_trans (run_trans hfront hmessage) hback
    rw [text_complain, String.toList_append, String.toList_append, hall]
    simp only [complaintWord, List.append_assoc, List.cons_append]
  · have hline : Mark.bare '\n' ∉ complaintWord message := fun hmem =>
      (hquoted _ hmem).2.2 rfl
    have hfirst : Mark.bare '\n' ∉ keyword "echo" := by decide
    have hlast : Mark.bare '\n' ∉ keyword ">&2" := by decide
    rw [List.mem_append, List.mem_cons, List.mem_append, List.mem_cons]
    rintro (hmem | hmem | hmem | hmem | hmem)
    · exact hfirst hmem
    · cases hmem
    · exact hline hmem
    · cases hmem
    · exact hlast hmem
  · -- three words are a `case` or an `echo`, and the first of them says which
    have hcase : ¬ (keyword "echo" = keyword "case" ∧ (complaintWord message).all Mark.isWhole
        ∧ keyword ">&2" = keyword "in") := fun hall => absurd hall.1 (by decide)
    have hecho : keyword "echo" = keyword "echo" ∧ (complaintWord message).all Mark.isWhole
        ∧ keyword ">&2" = keyword ">&2" :=
      ⟨rfl, List.all_eq_true.mpr fun m hm => (hquoted m hm).2.1, rfl⟩
    rw [Instruction.ofWords?, if_neg hcase, if_pos hecho]

/-- Every line that can be read is read as its instruction. Only the pattern and the message hold
texts; the other lines are fixed, and reading them is a computation. -/
theorem exists_readsAs {line : CheckLine} (h : line.IsReadable) :
    ∃ words, ReadsAs line.text.toList words
      ∧ Instruction.ofWords? words = some line.instruction := by
  cases line with
  | oneOf allowed => exact exists_readsAs_oneOf h
  | complain allowed => exact exists_readsAs_complain h
  | guard | choose | otherwise | stop | endClause | endChoose | endGuard =>
    exact ⟨_, ⟨_, _, rfl, by decide, rfl⟩, by decide⟩

end CheckLine

/-- A fragment of readable lines is a script of their instructions. -/
theorem HasLines.instructions {text : String} {lines : List CheckLine} (h : HasLines text lines)
    (hread : ∀ line ∈ lines, line.IsReadable) :
    ∃ words, lines? text = some words ∧ words.mapM Instruction.ofWords? =
      some (lines.map CheckLine.instruction ++ [.skip]) := by
  obtain ⟨rows, rfl, rfl⟩ := h
  choose! words hwords hinstruction using fun line => @CheckLine.exists_readsAs line
  -- the fragment ends in a newline, so its last line is an empty one, which is skipped
  let read : List (List Char × List Word) :=
    rows.map (fun row => ((rowText row).toList, words row.2)) ++ [([], [])]
  have htext : (joinLines (rows.map rowText ++ [""])).toList =
      ['\n'].intercalate (read.map Prod.fst) := by
    rw [joinLines, String.toList_intercalate]
    simp [read, Function.comp_def]
  have hrows : ∀ row ∈ rows, row.2.IsReadable := fun row hrow =>
    hread row.2 (List.mem_map_of_mem hrow)
  have hreads : ∀ row ∈ read, ReadsAs row.1 row.2 := by
    refine List.forall_mem_append.mpr ⟨fun row hrow => ?_, by simpa using readsAs_nil⟩
    obtain ⟨line, hline, rfl⟩ := List.mem_map.mp hrow
    rw [toList_rowText]
    exact (hwords line.2 (hrows line hline)).indented line.1
  refine ⟨read.map Prod.snd, lines?_of_rows (by simp [read]) htext hreads, mapM_eq_some ?_⟩
  have hmap : rows.map (fun row => Instruction.ofWords? (words row.2)) =
      rows.map fun row => some row.2.instruction :=
    List.map_congr_left fun row hrow => hinstruction row.2 (hrows row hrow)
  have hskip : Instruction.ofWords? [] = some .skip := rfl
  simpa [read, Function.comp_def, hskip] using hmap

/-! ## Runs -/

/-- The lines of an enumeration of plain texts can be read, if there are any texts. -/
theorem isReadable_enumLines {allowed : List String} (hne : allowed ≠ [])
    (hplain : ∀ s ∈ allowed, IsPlainText s) : ∀ line ∈ enumLines allowed, line.IsReadable := by
  simp only [enumLines, List.forall_mem_cons]
  exact ⟨trivial, trivial, hne, trivial, hplain, trivial, trivial, trivial, trivial,
    List.forall_mem_nil _⟩

theorem text_valueWord (env : String → String) : valueWord.text env = env "VALUE" := by
  simp [valueWord, Word.text, Mark.chars]

/-- The instructions of an enumeration stop the script for every value that is there and is none of
the texts. -/
theorem isBlock_enumLines (env : String → String) (allowed : List String) :
    IsBlock env ((enumLines allowed).map CheckLine.instruction)
      (valueWord.text env != "" && !allowed.contains (valueWord.text env)) :=
  (isBlock_choice valueWord allowed).guarded valueWord

/-- A value that is there passes the check in the script if it is one of the texts, moved as often
as there are optional types. -/
theorem passes?_nested (env : String → String) (n : Nat) {allowed : List String}
    (hne : allowed ≠ []) (hplain : ∀ s ∈ allowed, IsPlainText s) :
    passes? env (optional^[n] (ofTexts allowed)).runtimeCheck =
      some (env "VALUE" == "" || (allowed.map (indentText (2 * n))).contains (env "VALUE")) := by
  let moved := allowed.map (indentText (2 * n))
  have hmovedNe : moved ≠ [] := by simpa [moved] using hne
  have hmovedPlain : ∀ s ∈ moved, IsPlainText s := by
    intro s hs
    obtain ⟨t, ht, rfl⟩ := List.mem_map.mp hs
    exact isPlainText_indentText (hplain t ht) (2 * n)
  -- the guards and their ends hold no text, and the moved texts are still plain
  have hread : ∀ line ∈ List.replicate n .guard ++ enumLines moved ++ List.replicate n .endGuard,
      line.IsReadable := by
    intro line hline
    rcases List.mem_append.mp hline with hline | hend
    · rcases List.mem_append.mp hline with hguard | hline
      · rw [List.eq_of_mem_replicate hguard]
        trivial
      · exact isReadable_enumLines hmovedNe hmovedPlain line hline
    · rw [List.eq_of_mem_replicate hend]
      trivial
  obtain ⟨words, hlines, hinstructions⟩ := (hasLines_nested n allowed).instructions hread
  rw [List.map_append, List.map_append, List.map_replicate, List.map_replicate] at hinstructions
  have hblock := (isBlock_enumLines env moved).guardedRepeatedly n
  rw [passes?_of_isBlock hlines hinstructions hblock, text_valueWord, Bool.not_and, Bool.not_not]
  simp [moved, bne]

end ShellFlow.InputType

import ShellFlow.Proofs.Shell.Reader
import ShellFlow.Shell.Quote

/-!
# Texts that are one word

Which texts the reader takes for one word, whatever stands around them. Every function that writes a
part of a word is covered by one lemma, and the parts are put together with `Spells.append`; the
reader itself is opened here and nowhere else.

* **`Spells`** — a text is a row of complete parts of a word: harmless characters, quoted runs and
  expansions. The word goes along as an index, so what is read is known.
* **`run_of_spells`** — the transport: the reader reads such a text to its end and is outside of
  quotes again. Induction on `Spells`, no concrete text.
* **`ReadsLine`**, **`commands?_of_lines`** — a script whose lines are comments and words has one
  command for each word.
* **`exists_spells_quoteChars`** — quoting any text spells a word that stands for the text and
  expands nothing.
-/

namespace ShellFlow.Shell

/-! ## Harmless characters -/

theorem ne_of_isSafe {c d : Char} (hc : isSafe c = true) (hd : isSafe d = false) : c ≠ d := by
  rintro rfl
  rw [hc] at hd
  cases hd

theorem isSeparator_of_isSafe {c : Char} (hc : isSafe c = true) : isSeparator c = false := by
  have hne : ∀ d, isSafe d = false → c ≠ d := fun d hd => ne_of_isSafe hc hd
  simp [isSeparator, blanks, operators, hne _ (show isSafe '\n' = false by decide),
    hne _ (show isSafe ' ' = false by decide), hne _ (show isSafe '\t' = false by decide),
    hne _ (show isSafe '|' = false by decide), hne _ (show isSafe '&' = false by decide),
    hne _ (show isSafe ';' = false by decide), hne _ (show isSafe '<' = false by decide),
    hne _ (show isSafe '>' = false by decide), hne _ (show isSafe '(' = false by decide),
    hne _ (show isSafe ')' = false by decide)]

/-- A character that needs no quotes stands for itself, also where a word starts. -/
theorem step_safe {c : Char} (hc : isSafe c = true) (atStart : Bool) :
    step (.outside atStart) c = some ([.bare c], .outside false) := by
  have hne : ∀ d, isSafe d = false → c ≠ d := fun d hd => ne_of_isSafe hc hd
  simp [step, stepOutside, isSeparator_of_isSafe hc, hne _ (show isSafe '\'' = false by decide),
    hne _ (show isSafe '"' = false by decide), hne _ (show isSafe '$' = false by decide),
    hne _ (show isSafe '\\' = false by decide), hne _ (show isSafe '`' = false by decide),
    hne _ (show isSafe '#' = false by decide)]

theorem isSafe_of_isIdentChar {c : Char} (h : isIdentChar c = true) : isSafe c = true := by
  unfold isIdentChar at h
  rw [Bool.or_eq_true, beq_iff_eq] at h
  rcases h with h | rfl
  · simp [isSafe, h]
  · decide

/-- True of a mark that neither ends a word nor makes more than a simple command of a line. -/
def Mark.IsInner (m : Mark) : Prop :=
  m ≠ .bare '\n' ∧ m.isBlank = false ∧ m.isActive = false

/-- A check of a fixed list of characters by evaluation, in the form in which it is used. -/
theorem isSafe_eq_false_of_all {cs : List Char} (h : (cs.all fun c => ! isSafe c) = true) :
    ∀ c ∈ cs, isSafe c = false := by
  intro c hc
  simpa using List.all_eq_true.mp h c hc

/-- A safe character stands inside of a word: it is no newline, no blank and no operator. -/
theorem isInner_bare {c : Char} (hc : isSafe c = true) : (Mark.bare c).IsInner := by
  have hne : ∀ d, isSafe d = false → c ≠ d := fun d hd => ne_of_isSafe hc hd
  refine ⟨?_, ?_, ?_⟩
  · intro h
    injection h with h
    exact hne '\n' (by decide) h
  · unfold Mark.isBlank
    rw [Bool.eq_false_iff]
    intro h
    have hall := @isSafe_eq_false_of_all blanks (by decide)
    exact hne c (hall c (List.elem_iff.mp h)) rfl
  · unfold Mark.isActive
    rw [Bool.eq_false_iff, ne_eq, Bool.or_eq_true]
    have hall := @isSafe_eq_false_of_all (operators ++ patterns) (by decide)
    rintro (h | h)
    · exact hne c (hall c (List.mem_append_left _ (List.elem_iff.mp h))) rfl
    · exact hne c (hall c (List.mem_append_right _ (List.elem_iff.mp h))) rfl

/-! ## Words

`Spells cs word`: the characters are a row of complete parts of a word, and `word` holds their
marks. A part is a harmless character, a run in single quotes, a run in double quotes without
anything special in it, or an expansion in braces, with double quotes around it or without. -/

def expansionChars (name : String) : List Char := '$' :: '\x7b' :: (name.toList ++ ['\x7d'])

/-- True of a character that stands for itself inside of double quotes. -/
def isPlainInDouble (c : Char) : Bool := ! ['"', '$', '\\', '`'].contains c

inductive Spells : List Char → Word → Prop where
  | nil : Spells [] []
  | safe (c : Char) {cs : List Char} {word : Word} (hc : isSafe c = true)
      (hrest : Spells cs word) :
      Spells (c :: cs) (.bare c :: word)
  | single (inner : List Char) {cs : List Char} {word : Word} (hinner : '\'' ∉ inner)
      (hrest : Spells cs word) :
      Spells ('\'' :: (inner ++ '\'' :: cs)) (.quote :: (inner.map .quoted ++ .quote :: word))
  | double (inner : List Char) {cs : List Char} {word : Word}
      (hinner : ∀ c ∈ inner, isPlainInDouble c = true) (hrest : Spells cs word) :
      Spells ('"' :: (inner ++ '"' :: cs)) (.quote :: (inner.map .quoted ++ .quote :: word))
  | expansion (name : String) {cs : List Char} {word : Word} (hname : isIdentifier name = true)
      (hrest : Spells cs word) :
      Spells (expansionChars name ++ cs) (.expansion false name :: word)
  | quotedExpansion (name : String) {cs : List Char} {word : Word}
      (hname : isIdentifier name = true) (hrest : Spells cs word) :
      Spells ('"' :: (expansionChars name ++ '"' :: cs))
        (.quote :: .expansion true name :: .quote :: word)

/-- Two texts that each spell a word spell one word together. Induction on the first. -/
theorem Spells.append {first second : List Char} {word word' : Word} (h₁ : Spells first word)
    (h₂ : Spells second word') : Spells (first ++ second) (word ++ word') := by
  induction h₁ with
  | nil => exact h₂
  | safe c hc _ ih => exact .safe c hc ih
  | single inner hinner _ ih => simpa using Spells.single inner hinner ih
  | double inner hinner _ ih => simpa using Spells.double inner hinner ih
  | expansion name hname _ ih => simpa using Spells.expansion name hname ih
  | quotedExpansion name hname _ ih => simpa using Spells.quotedExpansion name hname ih

/-- **Safe characters spell the word that has them as they are.** -/
theorem spells_of_safe {cs : List Char} (h : ∀ c ∈ cs, isSafe c = true) :
    Spells cs (cs.map .bare) := by
  induction cs with
  | nil => exact .nil
  | cons c rest ih =>
    exact .safe c (h c List.mem_cons_self) (ih fun d hd => h d (List.mem_cons_of_mem _ hd))

/-! ## The transport: a spelled text is read to its end -/

/-- In single quotes everything but a single quote stands for itself. -/
theorem run_inSingle {inner : List Char} (h : '\'' ∉ inner) :
    run .inSingle inner = some (inner.map .quoted, .inSingle) := by
  induction inner with
  | nil => rfl
  | cons c rest ih =>
    rw [List.mem_cons, not_or] at h
    have hstep : step .inSingle c = some ([.quoted c], .inSingle) := by
      simp [step, Ne.symm h.1]
    exact run_cons hstep (ih h.2)

/-- In double quotes a text without the four special characters stands for itself. -/
theorem run_inDouble {inner : List Char} (h : ∀ c ∈ inner, isPlainInDouble c = true) :
    run .inDouble inner = some (inner.map .quoted, .inDouble) := by
  induction inner with
  | nil => rfl
  | cons c rest ih =>
    have hc : isPlainInDouble c = true := h c List.mem_cons_self
    have hstep : step .inDouble c = some ([.quoted c], .inDouble) := by
      simp only [isPlainInDouble, List.contains_cons, Bool.not_eq_true', Bool.or_eq_false_iff,
        beq_eq_false_iff_ne, ne_eq] at hc
      simp [step, stepDouble, hc]
    exact run_cons hstep (ih fun d hd => h d (List.mem_cons_of_mem _ hd))

/-- In braces, the characters of a name are collected until something else comes. -/
theorem run_inBraces {isQuoted : Bool} (name : List Char) {rest : List Char}
    (h : ∀ c ∈ rest, isIdentChar c = true) :
    run (.inBraces isQuoted name) rest = some ([], .inBraces isQuoted (name ++ rest)) := by
  induction rest generalizing name with
  | nil => simp [run]
  | cons c rest ih =>
    have hstep : step (.inBraces isQuoted name) c = some ([], .inBraces isQuoted (name ++ [c])) := by
      simp [step, h c List.mem_cons_self]
    have hrest := ih (name ++ [c]) fun d hd => h d (List.mem_cons_of_mem _ hd)
    rw [List.append_assoc, List.singleton_append] at hrest
    exact run_cons hstep hrest

theorem isIdentChar_of_mem_identifier {name : String} (h : isIdentifier name = true) :
    ∀ c ∈ name.toList, isIdentChar c = true := by
  obtain ⟨c, rest, hname, hc, hrest⟩ := (isIdentifier_iff name).mp h
  intro d hd
  rw [hname, List.mem_cons] at hd
  rcases hd with rfl | hd
  · exact isIdentChar_of_isIdentStart hc
  · exact hrest d hd

/-- The dollar sign leads into the name, and the closing brace back out. -/
theorem run_expansionChars (isQuoted : Bool) {name : String} (h : isIdentifier name = true) :
    run (.around isQuoted) (expansionChars name) =
      some ([.expansion isQuoted name], .around isQuoted) := by
  have hdollar : step (.around isQuoted) '$' = some ([], .afterDollar isQuoted) := by
    cases isQuoted <;> rfl
  have hopen : step (.afterDollar isQuoted) '\x7b' = some ([], .inBraces isQuoted []) := rfl
  have hname : run (.inBraces isQuoted []) name.toList =
      some ([], .inBraces isQuoted name.toList) :=
    run_inBraces [] (isIdentChar_of_mem_identifier h)
  have hclose : run (.inBraces isQuoted name.toList) ['\x7d'] =
      some ([.expansion isQuoted name], .around isQuoted) := by
    have hend : isIdentChar '\x7d' = false := by decide
    have hident : isIdentifierChars name.toList = true := h
    have hstep : step (.inBraces isQuoted name.toList) '\x7d' =
        some ([.expansion isQuoted name], .around isQuoted) := by
      simp [step, hend, hident]
    exact run_cons hstep rfl
  exact run_cons hdollar (run_cons hopen (run_trans hname hclose))

/-- A spelled text is read to its end, wherever in a word it stands. -/
theorem run_of_spells {cs : List Char} {word : Word} (h : Spells cs word) :
    run (.outside false) cs = some (word, .outside false) := by
  induction h with
  | nil => rfl
  | safe c hc _ ih => exact run_cons (step_safe hc false) ih
  | single inner hinner _ ih =>
    have hopen : step (.outside false) '\'' = some ([.quote], .inSingle) := rfl
    have hclose : step .inSingle '\'' = some ([.quote], .outside false) := rfl
    exact run_cons hopen (run_trans (run_inSingle hinner) (run_cons hclose ih))
  | double inner hinner _ ih =>
    have hopen : step (.outside false) '"' = some ([.quote], .inDouble) := rfl
    have hclose : step .inDouble '"' = some ([.quote], .outside false) := rfl
    exact run_cons hopen (run_trans (run_inDouble hinner) (run_cons hclose ih))
  | expansion name hname _ ih => exact run_trans (run_expansionChars false hname) ih
  | quotedExpansion name hname _ ih =>
    have hopen : step (.outside false) '"' = some ([.quote], .inDouble) := rfl
    have hclose : step .inDouble '"' = some ([.quote], .outside false) := rfl
    exact run_cons hopen (run_trans (run_expansionChars true hname) (run_cons hclose ih))

/-- A word that is spelled out has no blank, newline or operator outside of quotes, so it is not
split. -/
theorem isInner_of_spells {cs : List Char} {word : Word} (h : Spells cs word) :
    ∀ m ∈ word, m.IsInner := by
  have hquote : Mark.quote.IsInner := ⟨by simp, rfl, rfl⟩
  have hquoted : ∀ c : Char, (Mark.quoted c).IsInner := fun c => ⟨by simp, rfl, rfl⟩
  have hexpansion : ∀ (b : Bool) (name : String), (Mark.expansion b name).IsInner :=
    fun b name => ⟨by simp, rfl, rfl⟩
  induction h with
  | nil => simp
  | safe c hc _ ih => exact List.forall_mem_cons.mpr ⟨isInner_bare hc, ih⟩
  | single inner _ _ ih | double inner _ _ ih =>
    intro m hm
    simp only [List.mem_cons, List.mem_append, List.mem_map] at hm
    -- the opening mark, a mark in between, the closing mark, or one of the rest
    rcases hm with rfl | ⟨c, _, rfl⟩ | rfl | hm
    · exact hquote
    · exact hquoted c
    · exact hquote
    · exact ih m hm
  | expansion name _ _ ih => exact List.forall_mem_cons.mpr ⟨hexpansion false name, ih⟩
  | quotedExpansion name _ _ ih =>
    simp only [List.forall_mem_cons]
    exact ⟨hquote, hexpansion true name, hquote, ih⟩

/-! ## Lines

A line is a comment or a word. Either way the reader is ready for the next line after its newline,
and a script may end there. -/

inductive ReadsLine : List Char → Word → Prop where
  | comment {cs : List Char} (hline : '\n' ∉ cs) : ReadsLine ('#' :: cs) []
  | word {c : Char} {cs : List Char} {word : Word} (hc : isSafe c = true)
      (hspells : Spells (c :: cs) word) : ReadsLine (c :: cs) word

/-- A comment goes on to the end of its line, whatever stands in it. -/
theorem run_inComment {cs : List Char} (h : '\n' ∉ cs) :
    run .inComment cs = some ([], .inComment) := by
  induction cs with
  | nil => rfl
  | cons c rest ih =>
    rw [List.mem_cons, not_or] at h
    have hstep : step .inComment c = some ([], .inComment) := by
      simp [step, Ne.symm h.1]
    exact run_cons hstep (ih h.2)

/-- Where the reader may stand at the end of a line. -/
def Place.IsLineEnd (place : Place) : Prop :=
  place.finish = some [] ∧ step place '\n' = some ([.bare '\n'], .outside true)

/-- A line is read to a place where the line may end. -/
theorem run_of_readsLine {cs : List Char} {word : Word} (h : ReadsLine cs word) :
    ∃ place, run (.outside true) cs = some (word, place) ∧ place.IsLineEnd := by
  cases h with
  | comment hline =>
    have hopen : step (.outside true) '#' = some ([], .inComment) := rfl
    exact ⟨.inComment, run_cons hopen (run_inComment hline), rfl, rfl⟩
  | @word c rest _ hc hspells =>
    refine ⟨.outside false, ?_, rfl, rfl⟩
    -- the first character is read alike at the start of a word and inside of one
    rw [← run_of_spells hspells, run, run, step_safe hc, step_safe hc]

/-- A line that was read has the marks of its word, so none that would split it. -/
theorem isInner_of_readsLine {cs : List Char} {word : Word} (h : ReadsLine cs word) :
    ∀ m ∈ word, m.IsInner := by
  cases h with
  | comment => simp
  | word _ hspells => exact isInner_of_spells hspells

/-- The lines of a script are read one by one. Induction on the lines. -/
theorem run_lines {rows : List (List Char × Word)} (h : ∀ row ∈ rows, ReadsLine row.1 row.2) :
    ∃ place, run (.outside true) (['\n'].intercalate (rows.map Prod.fst)) =
        some ([Mark.bare '\n'].intercalate (rows.map Prod.snd), place)
      ∧ place.finish = some [] := by
  induction rows with
  | nil => exact ⟨.outside true, rfl, rfl⟩
  | cons row rest ih =>
    obtain ⟨place, hrun, hfinish, hnewline⟩ := run_of_readsLine (h row List.mem_cons_self)
    obtain ⟨last, hlast, hend⟩ := ih fun r hr => h r (List.mem_cons_of_mem _ hr)
    cases rest with
    | nil => exact ⟨place, by simpa using hrun, hfinish⟩
    | cons next rest =>
      refine ⟨last, ?_, hend⟩
      have hrest := run_trans hrun (run_cons hnewline hlast)
      simpa [List.intercalate_cons_cons] using hrest

/-- Marks without a blank among them are one word, or none if there are no marks. -/
theorem wordsOf_eq_self {word : Word} (h : ∀ m ∈ word, m.IsInner) :
    wordsOf word = if word.isEmpty then [] else [word] := by
  have hone : word.splitOnP Mark.isBlank = [word] :=
    List.splitOnP_eq_singleton fun m hm => (h m hm).2.1
  unfold wordsOf
  rw [hone]
  cases word <;> rfl

/-- No operator and no pattern comes in by putting lines of words below each other. -/
theorem any_isActive_intercalate {words : List Word} (h : ∀ word ∈ words, ∀ m ∈ word, m.IsInner) :
    ([Mark.bare '\n'].intercalate words).any Mark.isActive = false := by
  induction words with
  | nil => rfl
  | cons word rest ih =>
    have hword : word.any Mark.isActive = false := by
      rw [List.any_eq_false]
      intro m hm
      rw [(h word List.mem_cons_self m hm).2.2]
      decide
    have hnewline : (Mark.bare '\n').isActive = false := by decide
    have hrest := ih fun w hw => h w (List.mem_cons_of_mem _ hw)
    cases rest with
    | nil => simpa using hword
    | cons next rest =>
      rw [List.intercalate_cons_cons, List.any_append, List.any_append, hword, hrest]
      simp [hnewline]

/-- Between newlines stands one word, or none. -/
theorem commandsOf_intercalate {words : List Word} (h : ∀ word ∈ words, ∀ m ∈ word, m.IsInner) :
    commandsOf ([Mark.bare '\n'].intercalate words) =
      (words.filter fun word => !word.isEmpty).map fun word => Command.ofWords [word] := by
  have hlines : (([Mark.bare '\n'].intercalate words).splitOn (.bare '\n')).map wordsOf =
      if words = [] then [[]] else words.map fun word => if word.isEmpty then [] else [word] := by
    split
    · subst words
      rfl
    · rename_i hne
      -- no mark of a word is a newline, so the split gives the words back
      rw [List.splitOn_intercalate (.bare '\n')
        (fun word hword hm => (h word hword _ hm).1 rfl) hne]
      exact List.map_congr_left fun word hword => wordsOf_eq_self (h word hword)
  have hfilter : ((words.map fun word => if word.isEmpty then [] else [word]).filter
      fun line => !line.isEmpty) = (words.filter fun word => !word.isEmpty).map fun w => [w] := by
    clear hlines h
    induction words with
    | nil => rfl
    | cons word rest ih =>
      rw [List.map_cons, List.filter_cons, List.filter_cons, ih]
      cases word <;> rfl
  unfold commandsOf
  rw [hlines]
  split
  · subst words
    rfl
  · rw [hfilter, List.map_map]
    rfl

/-- A script of comments and words has one command for each word. -/
theorem commands?_of_lines {script : String} {rows : List (List Char × Word)}
    (hscript : script.toList = ['\n'].intercalate (rows.map Prod.fst))
    (h : ∀ row ∈ rows, ReadsLine row.1 row.2) :
    commands? script =
      some (((rows.map Prod.snd).filter fun word => !word.isEmpty).map
        fun word => Command.ofWords [word]) := by
  obtain ⟨place, hrun, hfinish⟩ := run_lines h
  have hinner : ∀ word ∈ rows.map Prod.snd, ∀ m ∈ word, m.IsInner := by
    intro word hword
    obtain ⟨row, hrow, rfl⟩ := List.mem_map.mp hword
    exact isInner_of_readsLine (h row hrow)
  have hmarks : marks? script = some ([Mark.bare '\n'].intercalate (rows.map Prod.snd)) := by
    simp [marks?, hscript, hrun, hfinish]
  have hsimple := any_isActive_intercalate hinner
  unfold commands?
  rw [hmarks, Option.bind_eq_bind, Option.bind_some, hsimple, commandsOf_intercalate hinner]
  rfl

/-! ## Assignments -/

/-- The name of an assignment ends at its first equals sign. -/
theorem takeTarget_bare {done name : List Char} (hname : '=' ∉ name) (value : Word) :
    takeTarget done (name.map .bare ++ .bare '=' :: value) =
      if isIdentifierChars (done ++ name) then some (String.ofList (done ++ name), value)
      else none := by
  induction name generalizing done with
  | nil => simp [takeTarget]
  | cons c rest ih =>
    rw [List.mem_cons, not_or] at hname
    have hc : ¬ c = '=' := fun h => hname.1 h.symm
    have hrest := @ih (done ++ [c]) hname.2
    simp only [List.append_assoc, List.singleton_append] at hrest
    simp only [List.map_cons, List.cons_append, takeTarget, if_neg hc]
    exact hrest

/-- An identifier and an equals sign in front of a word make it an assignment; the reader takes the
first equals sign, and an identifier has none. -/
theorem ofWords_assignment {var : String} (h : isIdentifier var = true) (value : Word) :
    Command.ofWords [var.toList.map .bare ++ .bare '=' :: value] = .assignment var value := by
  have hequals : '=' ∉ var.toList := by
    intro hmem
    have hchar := isIdentChar_of_mem_identifier h '=' hmem
    revert hchar
    decide
  have hident : isIdentifierChars ([] ++ var.toList) = true := h
  have htake : takeTarget [] (var.toList.map .bare ++ .bare '=' :: value) = some (var, value) := by
    rw [takeTarget_bare hequals, if_pos hident, List.nil_append, String.ofList_toList]
  simp only [Command.ofWords, htake]

/-! ## Quoting -/

/-- Inside of single quotes, with `inner` read already: the rest of a text is written so that the
word stands for all of it. A quotation mark in it closes the quotes, so the induction on the text
starts a new run there. -/
theorem exists_spells_quoteChar {inner : List Char} (hinner : '\'' ∉ inner) (cs : List Char) :
    ∃ word, Spells ('\'' :: (inner ++ (cs.flatMap quoteChar ++ ['\'']))) word
      ∧ (∀ env, word.chars env = inner ++ cs) ∧ word.expanded = [] := by
  induction cs generalizing inner with
  | nil =>
    refine ⟨_, Spells.single inner hinner .nil, ?_, ?_⟩
    · intro env
      simp [Mark.chars]
    · simp [Mark.expanded?]
  | cons c rest ih =>
    by_cases hc : c = mark
    · -- close, write the mark in double quotes, and open again
      obtain ⟨word, hspells, hchars, hvars⟩ := @ih [] (by simp)
      have hmark : Spells ('"' :: (['\''] ++ '"' :: _)) _ :=
        Spells.double ['\''] (List.all_eq_true.mp (by decide)) hspells
      refine ⟨_, by simpa [quoteChar, hc, escapedMark] using Spells.single inner hinner hmark, ?_, ?_⟩
      · intro env
        simp [Mark.chars, hchars env, hc, mark]
      · simp [Mark.expanded?, hvars]
    · -- any other character is one more inside of the quotes
      have hne : ¬ '\'' = c := fun h => hc h.symm
      have hsnoc : '\'' ∉ inner ++ [c] := by
        simp [hinner, hne]
      obtain ⟨word, hspells, hchars, hvars⟩ := ih hsnoc
      refine ⟨word, by simpa [quoteChar, hc] using hspells, ?_, hvars⟩
      intro env
      simpa using hchars env

/-- Quoting a text spells a word that stands for the text and expands nothing. -/
theorem exists_spells_quoteChars (cs : List Char) :
    ∃ word, Spells (quoteChars cs) word ∧ (∀ env, word.chars env = cs) ∧ word.expanded = [] := by
  unfold quoteChars
  split
  · rename_i hempty
    rw [List.isEmpty_iff] at hempty
    subst cs
    exact @exists_spells_quoteChar [] (by simp) []
  · split
    · rename_i hsafe
      rw [List.all_eq_true] at hsafe
      exact ⟨cs.map .bare, spells_of_safe hsafe, by simp, by simp⟩
    · exact @exists_spells_quoteChar [] (by simp) cs

end ShellFlow.Shell

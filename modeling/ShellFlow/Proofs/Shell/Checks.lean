import Mathlib.Data.Option.Basic
import ShellFlow.Proofs.Shell.Words
import ShellFlow.Proofs.Text.Indentation

/-!
# Checks as scripts

The checks of input types are no simple commands: they are scripts with `if` and `case`. Here they
are read line by line, each line as one instruction, and run on a stack of the constructs that are
open. As with commands, the reader knows what it needs and gives up at anything else.

* **`lines?`**, **`Instruction.ofWords?`** — the lines of a script, and what they do.
* **`perform`**, **`runAll`** — one instruction, and a row of them. The lines of a construct that
  does not run are gone through all the same, so that its end is found.
* **`passes?`** — whether a check lets the script go on.
* **`IsBlock`** — instructions that leave the open constructs as they found them, or stop the
  script.
* **`alternatives?`** — the texts of the first pattern of a `case`, read without what comes after.
* **`lines?_of_rows`**, **`alternatives?_of_text`** — what is read in a text that is put together.
-/

namespace ShellFlow.Shell

/-! ## Lines -/

/-- The words of the lines of a script. -/
def lines? (script : String) : Option (List (List Word)) :=
  (marks? script).map fun marks => (marks.splitOn (.bare '\n')).map wordsOf

def keyword (s : String) : Word := s.toList.map .bare

namespace Mark

/-- True of a mark that is part of one word: no operator, no pattern, and no expansion that would be
cut up. -/
def isWhole : Mark → Bool
  | .bare c => !(Mark.bare c).isActive
  | .expansion isQuoted _ => isQuoted
  | _ => true

/-- The characters for which a mark stands in every environment. -/
def literal? : Mark → Option (List Char)
  | .bare c => if (Mark.bare c).isActive then none else some [c]
  | .quoted c => some [c]
  | .quote => some []
  | .expansion _ _ => none

end Mark

/-- The text for which a word stands in every environment. -/
def Word.literal? (word : Word) : Option String :=
  (word.mapM Mark.literal?).map fun parts => String.ofList parts.flatten

/-- The texts between the bars of a pattern, if there are only texts. -/
def alternativesOf? (pattern : List Mark) : Option (List String) :=
  (pattern.splitOn (.bare '|')).mapM Word.literal?

inductive Instruction where
  | skip
  /-- Opens an `if` that runs when the word is not empty. -/
  | ifSome (word : Word)
  | endIf
  | caseOf (subject : Word)
  /-- A clause with nothing to do. -/
  | clause (alternatives : List String)
  | otherwise
  | endClause
  | endCase
  | echo
  | exit
  deriving DecidableEq, Repr

def Instruction.ofWords? : List Word → Option Instruction
  | [] => some .skip
  | [word] =>
    if word = keyword "fi" then some .endIf
    else if word = keyword "esac" then some .endCase
    else if word = keyword ";;" then some .endClause
    else if word = keyword "*)" then some .otherwise
    else none
  | [first, second] =>
    if first = keyword "exit" ∧ second = keyword "1" then some .exit
    else if first.getLast? = some (.bare ')') ∧ second = keyword ";;" then
      (alternativesOf? first.dropLast).map .clause
    else none
  | [first, second, third] =>
    if first = keyword "case" ∧ second.all Mark.isWhole ∧ third = keyword "in" then
      some (.caseOf second)
    else if first = keyword "echo" ∧ second.all Mark.isWhole ∧ third = keyword ">&2" then some .echo
    else none
  | [first, second, third, word, fifth, sixth] =>
    if [first, second, third, fifth, sixth] = ["if", "[", "-n", "];", "then"].map keyword
        ∧ word.all Mark.isWhole then
      some (.ifSome word)
    else none
  | _ => none

/-! ## Runs -/

/-- A construct that is open, and whether the lines in it run. -/
inductive Frame where
  | branch (runs : Bool)
  /-- A `case`; `taken` says whether one of its clauses was chosen already. -/
  | choice (subject : String) (taken runs : Bool)
  deriving DecidableEq, Repr

def Frame.runs : Frame → Bool
  | .branch runs => runs
  | .choice _ _ runs => runs

inductive Status where
  | running (frames : List Frame)
  | stopped
  deriving DecidableEq, Repr

def perform (env : String → String) : Instruction → List Frame → Option Status
  | .skip, frames => some (.running frames)
  | .ifSome word, frames => some (.running (.branch (word.text env != "") :: frames))
  | .endIf, .branch _ :: frames => some (.running frames)
  | .caseOf subject, frames => some (.running (.choice (subject.text env) false false :: frames))
  | .clause alternatives, .choice subject taken _ :: frames =>
    some (.running (.choice subject (taken || alternatives.contains subject) false :: frames))
  | .otherwise, .choice subject taken _ :: frames =>
    some (.running (.choice subject true (!taken) :: frames))
  | .endClause, .choice subject taken _ :: frames =>
    some (.running (.choice subject taken false :: frames))
  | .endCase, .choice _ _ _ :: frames => some (.running frames)
  | .echo, frames => some (.running frames)
  | .exit, frames => some (if frames.all Frame.runs then .stopped else .running frames)
  | _, _ => none

def runAll (env : String → String) : List Instruction → List Frame → Option Status
  | [], frames => some (.running frames)
  | i :: rest, frames =>
    match perform env i frames with
    | some (.running frames) => runAll env rest frames
    | some .stopped => some .stopped
    | none => none

/-- Whether a check lets the script go on in an environment. -/
def passes? (env : String → String) (script : String) : Option Bool := do
  let lines ← lines? script
  let instructions ← lines.mapM Instruction.ofWords?
  match ← runAll env instructions [] with
  | .stopped => some false
  | .running [] => some true
  | .running _ => none

/-! ## Blocks

Conditionals and `case` commands are balanced, so a block runs as a whole: it leaves the frames as
they were, or it stops the script. -/

/-- Where they run, the instructions stop the script if `fails`; otherwise what comes after them
goes on with the constructs that were open before. -/
def IsBlock (env : String → String) (instructions : List Instruction) (fails : Bool) : Prop :=
  ∀ frames rest, runAll env (instructions ++ rest) frames =
    if frames.all Frame.runs && fails then some .stopped else runAll env rest frames

section Blocks

variable {env : String → String}

/-- One instruction and the rest, for an instruction that leaves the machine running. -/
theorem runAll_cons {i : Instruction} {frames frames' : List Frame}
    (h : perform env i frames = some (.running frames')) (rest : List Instruction) :
    runAll env (i :: rest) frames = runAll env rest frames' := by
  rw [runAll, h]

/-- An `if` around a block is a block, which fails only if it runs. -/
theorem IsBlock.guarded {instructions : List Instruction} {fails : Bool}
    (h : IsBlock env instructions fails) (word : Word) :
    IsBlock env (.ifSome word :: (instructions ++ [.endIf])) (word.text env != "" && fails) := by
  intro frames rest
  rw [List.cons_append, List.append_assoc, List.singleton_append, runAll_cons rfl, h,
    runAll_cons rfl]
  have hruns : (Frame.branch (word.text env != "") :: frames).all Frame.runs =
      ((word.text env != "") && frames.all Frame.runs) := rfl
  rw [hruns, Bool.and_left_comm, ← Bool.and_assoc]

/-- The last clause of a `case` stops the script if it runs. -/
theorem runAll_exit (subject : String) (refused : Bool) (frames : List Frame)
    (rest : List Instruction) :
    runAll env (.exit :: .endClause :: .endCase :: rest)
        (.choice subject true refused :: frames) =
      if frames.all Frame.runs && refused then some .stopped else runAll env rest frames := by
  have hruns : (Frame.choice subject true refused :: frames).all Frame.runs =
      (frames.all Frame.runs && refused) := by
    rw [Bool.and_comm]
    rfl
  rw [runAll, perform, hruns]
  cases frames.all Frame.runs && refused <;> rfl

/-- A `case` that lets some texts pass and refuses all others. -/
theorem isBlock_choice (subject : Word) (alternatives : List String) :
    IsBlock env
      [.caseOf subject, .clause alternatives, .otherwise, .echo, .exit, .endClause, .endCase]
      (!alternatives.contains (subject.text env)) :=
  fun frames rest =>
    -- in front of the exit, the last clause runs if no other one was taken
    runAll_exit (subject.text env) (!alternatives.contains (subject.text env)) frames rest

/-- Guards that ask the same thing over and over ask it once. -/
theorem IsBlock.guardedRepeatedly {instructions : List Instruction} {word : Word} {fails : Bool}
    (h : IsBlock env instructions (word.text env != "" && fails)) (n : Nat) :
    IsBlock env (List.replicate n (.ifSome word) ++ instructions ++ List.replicate n .endIf)
      (word.text env != "" && fails) := by
  induction n with
  | zero => simpa using h
  | succ n ih =>
    have hnext := ih.guarded word
    rw [← Bool.and_assoc, Bool.and_self] at hnext
    rw [List.replicate_succ, List.replicate_succ']
    simpa using hnext

/-- A block is a check that passes unless it fails. -/
theorem passes?_of_isBlock {script : String} {lines : List (List Word)}
    {instructions : List Instruction} {fails : Bool} (hlines : lines? script = some lines)
    (hread : lines.mapM Instruction.ofWords? = some (instructions ++ [.skip]))
    (h : IsBlock env instructions fails) : passes? env script = some (!fails) := by
  have hrun := h [] [.skip]
  unfold passes?
  simp only [hlines, hread, hrun, Option.bind_eq_bind, Option.bind_some]
  cases fails <;> rfl

end Blocks

/-! ## Reading a text line by line -/

/-- The characters of a line, and the words that are read in it. -/
def ReadsAs (cs : List Char) (words : List Word) : Prop :=
  ∃ (marks : List Mark) (inStart : Bool), run (.outside true) cs = some (marks, .outside inStart)
    ∧ Mark.bare '\n' ∉ marks ∧ wordsOf marks = words

/-- No line at all reads as no instruction; the start of the induction on the lines of a script. -/
theorem readsAs_nil : ReadsAs [] [] := ⟨[], true, rfl, List.not_mem_nil, rfl⟩

theorem wordsOf_blank_cons {m : Mark} (h : m.isBlank = true) (marks : List Mark) :
    wordsOf (m :: marks) = wordsOf marks := by
  unfold wordsOf
  rw [← List.nil_append (m :: marks), List.splitOnP_append_cons_of_forall_mem (by simp) _ h]
  rfl

/-- A word ends at a blank. -/
theorem wordsOf_append_blank {word : Word} (hne : word ≠ []) (h : ∀ m ∈ word, m.isBlank = false)
    {m : Mark} (hm : m.isBlank = true) (marks : List Mark) :
    wordsOf (word ++ m :: marks) = word :: wordsOf marks := by
  unfold wordsOf
  rw [List.splitOnP_append_cons_of_forall_mem h _ hm, List.filter_cons, if_pos (by simpa using hne)]

/-- The blanks of a margin are read as blanks, and a word may start after them. -/
theorem run_margin (n : Nat) :
    run (.outside true) (List.replicate n ' ') =
      some (List.replicate n (.bare ' '), .outside true) := by
  induction n with
  | zero => rfl
  | succ n ih =>
    have hblank : step (.outside true) ' ' = some ([.bare ' '], .outside true) := rfl
    exact run_cons hblank ih

/-- The margin of a line makes no difference. -/
theorem ReadsAs.indented {cs : List Char} {words : List Word} (h : ReadsAs cs words) (n : Nat) :
    ReadsAs (List.replicate n ' ' ++ cs) words := by
  obtain ⟨marks, inStart, hrun, hline, hwords⟩ := h
  refine ⟨List.replicate n (.bare ' ') ++ marks, inStart, run_trans (run_margin n) hrun, ?_, ?_⟩
  · rw [List.mem_append, not_or]
    refine ⟨fun hmem => ?_, hline⟩
    exact absurd (List.eq_of_mem_replicate hmem) (by decide)
  · rw [← hwords]
    clear hrun
    induction n with
    | zero => rfl
    | succ n ih =>
      rw [List.replicate_succ, List.cons_append, wordsOf_blank_cons (by decide), ih]

/-- The lines of a text are read one by one. -/
theorem run_rows {rows : List (List Char × List Word)} (h : ∀ row ∈ rows, ReadsAs row.1 row.2) :
    ∃ (lines : List (List Mark)) (inStart : Bool),
      run (.outside true) (['\n'].intercalate (rows.map Prod.fst)) =
        some ([Mark.bare '\n'].intercalate lines, .outside inStart)
      ∧ (∀ line ∈ lines, Mark.bare '\n' ∉ line) ∧ lines.map wordsOf = rows.map Prod.snd := by
  induction rows with
  | nil => exact ⟨[], true, rfl, by simp, rfl⟩
  | cons row rest ih =>
    obtain ⟨marks, atEnd, hrun, hline, hwords⟩ := h row List.mem_cons_self
    obtain ⟨lines, inStart, hrest, hlines, hall⟩ := ih fun r hr => h r (List.mem_cons_of_mem _ hr)
    have hmem : ∀ line ∈ marks :: lines, Mark.bare '\n' ∉ line :=
      List.forall_mem_cons.mpr ⟨hline, hlines⟩
    have hmap : (marks :: lines).map wordsOf = (row :: rest).map Prod.snd := by
      rw [List.map_cons, List.map_cons, hwords, hall]
    -- a newline comes between two lines, so the last line is a case of its own
    cases rest with
    | nil =>
      have hnil : lines = [] := by simpa using hall
      subst hnil
      exact ⟨[marks], atEnd, by simpa using hrun, hmem, hmap⟩
    | cons next more =>
      obtain ⟨first, others, rfl⟩ : ∃ first others, lines = first :: others := by
        cases lines with
        | nil => simp at hall
        | cons first others => exact ⟨first, others, rfl⟩
      have hnewline := step_separator (by decide : isSeparator '\n' = true) atEnd
      have hrun' := run_trans hrun (run_cons hnewline hrest)
      exact ⟨marks :: first :: others, inStart,
        by simpa [List.intercalate_cons_cons] using hrun', hmem, hmap⟩

/-- A text of lines has the words of these lines. -/
theorem lines?_of_rows {text : String} {rows : List (List Char × List Word)} (hne : rows ≠ [])
    (htext : text.toList = ['\n'].intercalate (rows.map Prod.fst))
    (h : ∀ row ∈ rows, ReadsAs row.1 row.2) : lines? text = some (rows.map Prod.snd) := by
  obtain ⟨lines, inStart, hrun, hlines, hwords⟩ := run_rows h
  have hlinesNe : lines ≠ [] := by
    rintro rfl
    exact hne (by simpa using hwords.symm)
  have hmarks : marks? text = some ([Mark.bare '\n'].intercalate lines) :=
    marks?_of_run (htext ▸ hrun)
  rw [lines?, hmarks, Option.map_some, List.splitOn_intercalate _ hlines hlinesNe, hwords]

/-! ## The pattern of a `case` -/

/-- Reads up to the first closing parenthesis outside of quotes; what comes after it is left. -/
def readPattern : Place → List Char → Option (List Mark × List Char)
  | _, [] => none
  | place, c :: rest => do
    let (here, next) ← step place c
    if here = [.bare ')'] then some ([], rest)
    else
      let (later, last) ← readPattern next rest
      some (here ++ later, last)

/-- The texts of the first pattern below the line that ends with `in`. Nothing that comes after the
pattern is looked at, but for the end of its clause. -/
def alternatives? (script : String) : Option (List String) := do
  let below := ((Text.cutAtNewlines script.toList).dropWhile fun line =>
    !" in".toList.isSuffixOf line).drop 1
  let (pattern, rest) ← readPattern (.outside true) (['\n'].intercalate below)
  if " ;;".toList.isPrefixOf rest then alternativesOf? (pattern.dropWhile Mark.isBlank) else none

/-- What a reading has read of a text that is not empty: the marks of the first character, then
those of the rest. -/
theorem run_cons_eq_some {place last : Place} {c : Char} {rest : List Char} {marks : List Mark}
    (h : run place (c :: rest) = some (marks, last)) :
    ∃ here next later, step place c = some (here, next) ∧ run next rest = some (later, last)
      ∧ marks = here ++ later := by
  rw [run] at h
  obtain ⟨⟨here, next⟩, hstep, h⟩ := Option.bind_eq_some_iff.mp h
  obtain ⟨⟨later, last'⟩, hrest, h⟩ := Option.bind_eq_some_iff.mp h
  cases h
  exact ⟨here, next, later, hstep, hrest, rfl⟩

/-- The pattern ends at the first parenthesis behind a text that has none outside of quotes. -/
theorem readPattern_append {place : Place} {cs : List Char} {marks : List Mark} {inStart : Bool}
    (h : run place cs = some (marks, .outside inStart)) (hmarks : Mark.bare ')' ∉ marks)
    (rest : List Char) : readPattern place (cs ++ ')' :: rest) = some (marks, rest) := by
  induction cs generalizing place marks with
  | nil =>
    cases h
    have hstep := step_separator (by decide : isSeparator ')' = true) inStart
    rw [List.nil_append, readPattern, hstep]
    rfl
  | cons c more ih =>
    obtain ⟨here, next, later, hstep, hrun, rfl⟩ := run_cons_eq_some h
    rw [List.mem_append, not_or] at hmarks
    have hhere : here ≠ [.bare ')'] := by
      rintro rfl
      exact hmarks.1 List.mem_cons_self
    rw [List.cons_append, readPattern, hstep, Option.bind_eq_bind, Option.bind_some]
    dsimp only
    rw [if_neg hhere, ih hrun hmarks.2]
    rfl

/-- A partial function that is defined on all items of a list, by the images of the list. -/
theorem mapM_eq_some {α β : Type} {f : α → Option β} {l : List α} {l' : List β}
    (h : l.map f = l'.map some) : l.mapM f = some l' := by
  induction l generalizing l' with
  | nil =>
    cases l' with
    | nil => rfl
    | cons b rest => cases h
  | cons a rest ih =>
    cases l' with
    | nil => cases h
    | cons b rest' =>
      injection h with ha hrest
      rw [List.mapM_cons, ha, ih hrest]
      rfl

/-- A word that expands nothing stands for its text. -/
theorem literal?_of_expanded_eq_nil {word : Word} (hinner : ∀ m ∈ word, m.IsInner)
    (h : word.expanded = []) (env : String → String) : word.literal? = some (word.text env) := by
  have hmarks : word.map Mark.literal? = (word.map (Mark.chars env)).map some := by
    rw [List.map_map]
    refine List.map_congr_left fun m hm => ?_
    have hexpanded := List.filterMap_eq_nil_iff.mp h m hm
    cases m with
    | bare c =>
      have hactive := (hinner _ hm).2.2
      rw [Mark.literal?, if_neg (by rw [hactive]; decide)]
      rfl
    | quoted c | quote => rfl
    | expansion q name => cases hexpanded
  rw [Word.literal?, mapM_eq_some hmarks, Option.map_some, Word.text, Word.chars, List.flatMap_def]

/-- The characters of a pattern, and the words that are read between its bars. -/
def ReadsPattern (cs : List Char) (words : List Word) : Prop :=
  (∃ inStart, run (.outside true) cs =
    some ([Mark.bare '|'].intercalate words, .outside inStart))
  ∧ ∀ word ∈ words, ∀ m ∈ word, m.IsInner

/-- The alternatives of a `case` pattern, each of which is one word, with bars between them: the
reader takes them apart at the bars again. -/
theorem readsPattern_of_spells {rows : List (List Char × Word)}
    (h : ∀ row ∈ rows, Spells row.1 row.2) :
    ReadsPattern (['|'].intercalate (rows.map Prod.fst)) (rows.map Prod.snd) := by
  refine ⟨run_separated (by decide) h true, fun word hword => ?_⟩
  obtain ⟨row, hrow, rfl⟩ := List.mem_map.mp hword
  exact isInner_of_spells (h row hrow)

section Pattern

variable {pattern : List Char} {words : List Word} {texts : List String}

/-- A pattern is one word, and no parenthesis ends it before its time. -/
theorem ReadsPattern.isPart (h : ReadsPattern pattern words) :
    ∀ m ∈ [Mark.bare '|'].intercalate words,
      m.isBlank = false ∧ m ≠ .bare ')' ∧ m ≠ .bare '\n' := by
  refine forall_mem_intercalate (by decide) fun word hword m hm => ?_
  obtain ⟨hline, hblank, hactive⟩ := h.2 word hword m hm
  refine ⟨hblank, ?_, hline⟩
  rintro rfl
  exact absurd hactive (by decide)

/-- What is found between the bars are the texts for which the words stand. -/
theorem ReadsPattern.alternativesOf? (h : ReadsPattern pattern words) (hne : words ≠ [])
    (hliteral : words.map Word.literal? = texts.map some) :
    Shell.alternativesOf? ([Mark.bare '|'].intercalate words) = some texts := by
  have hbar : ∀ word ∈ words, Mark.bare '|' ∉ word := fun word hword hmem =>
    absurd (h.2 word hword _ hmem).2.2 (by decide)
  rw [Shell.alternativesOf?, List.splitOn_intercalate _ hbar hne]
  exact mapM_eq_some hliteral

/-- Taking the blanks off the front of a line takes its margin and nothing else, as what follows the
margin has no blank. -/
theorem dropWhile_margin {marks : List Mark} (h : ∀ m ∈ marks, m.isBlank = false) (margin : Nat) :
    (List.replicate margin (Mark.bare ' ') ++ marks).dropWhile Mark.isBlank = marks := by
  rw [List.dropWhile_append_of_pos]
  · cases marks with
    | nil => rfl
    | cons m rest =>
      rw [List.dropWhile_cons, h m List.mem_cons_self]
      rfl
  · intro m hm
    rw [List.eq_of_mem_replicate hm]
    decide

/-- Lines that hold no newline are what the text of lines is cut into; the lines that follow them
may still hold some, which is why these are cut again on the right. -/
theorem cutAtNewlines_intercalate {before rest : List (List Char)}
    (h : ∀ line ∈ before, '\n' ∉ line) (hne : rest ≠ []) :
    Text.cutAtNewlines (['\n'].intercalate (before ++ rest)) =
      before ++ Text.cutAtNewlines (['\n'].intercalate rest) := by
  induction before with
  | nil => rfl
  | cons line more ih =>
    have hmore : more ++ rest ≠ [] := by simp [hne]
    rw [List.cons_append, List.intercalate_cons_of_ne_nil hmore, List.append_assoc,
      List.singleton_append, Text.cutAtNewlines_append (h line List.mem_cons_self),
      ih fun l hl => h l (List.mem_cons_of_mem _ hl)]
    rfl

/-- What is below the first line that ends with `in`. -/
theorem cutAtNewlines_below {before below : List (List Char)} {opening : List Char}
    (hbefore : ∀ line ∈ before, '\n' ∉ line ∧ " in".toList.isSuffixOf line = false)
    (hopening : '\n' ∉ opening ∧ " in".toList.isSuffixOf opening = true) (hne : below ≠ []) :
    ((Text.cutAtNewlines (['\n'].intercalate (before ++ opening :: below))).dropWhile fun line =>
      !" in".toList.isSuffixOf line).drop 1 =
        Text.cutAtNewlines (['\n'].intercalate below) := by
  have hplain : ∀ line ∈ before ++ [opening], '\n' ∉ line := by
    simpa [or_imp, forall_and] using ⟨fun line hline => (hbefore line hline).1, hopening.1⟩
  have hskipped : ∀ line ∈ before, (!" in".toList.isSuffixOf line) = true := fun line hline => by
    rw [(hbefore line hline).2]
    rfl
  have hcut := cutAtNewlines_intercalate hplain hne
  rw [List.append_assoc, List.singleton_append] at hcut
  rw [hcut, List.append_assoc, List.dropWhile_append_of_pos hskipped, List.singleton_append,
    List.dropWhile_cons, hopening.2]
  rfl

/-- The alternatives of the first pattern in a text of lines. The lines in front of it must be
plain, and only the last of them may end with `in`. -/
theorem alternatives?_of_text {script : String} {before after : List (List Char)}
    {opening : List Char} {margin : Nat}
    (hbefore : ∀ line ∈ before, '\n' ∉ line ∧ " in".toList.isSuffixOf line = false)
    (hopening : '\n' ∉ opening ∧ " in".toList.isSuffixOf opening = true)
    (hpattern : ReadsPattern pattern words) (hne : words ≠ [])
    (hliteral : words.map Word.literal? = texts.map some)
    (hscript : script.toList = ['\n'].intercalate (before ++ opening
      :: (List.replicate margin ' ' ++ pattern ++ ") ;;".toList) :: after)) :
    alternatives? script = some texts := by
  obtain ⟨inStart, hwords⟩ := hpattern.1
  have hbelow : ['\n'].intercalate
      ((List.replicate margin ' ' ++ pattern ++ ") ;;".toList) :: after) =
        (List.replicate margin ' ' ++ pattern)
          ++ ')' :: (" ;;".toList ++ ['\n'].intercalate ([] :: after)) := by
    have hfirst := Text.intercalate_append_cons
      (List.replicate margin ' ' ++ pattern ++ ") ;;".toList) [] after
    rw [List.append_nil] at hfirst
    rw [hfirst, List.append_assoc]
    rfl
  have hrun : run (.outside true) (List.replicate margin ' ' ++ pattern) = _ :=
    run_trans (run_margin margin) hwords
  -- the only parenthesis outside of quotes is the one that ends the pattern
  have hparenthesis : Mark.bare ')' ∉
      List.replicate margin (Mark.bare ' ') ++ [Mark.bare '|'].intercalate words := by
    rw [List.mem_append, not_or]
    refine ⟨fun hmem => ?_, fun hmem => (hpattern.isPart _ hmem).2.1 rfl⟩
    exact absurd (List.eq_of_mem_replicate hmem) (by decide)
  have hread := readPattern_append hrun hparenthesis
    (" ;;".toList ++ ['\n'].intercalate ([] :: after))
  have hdrop := dropWhile_margin (fun m hm => (hpattern.isPart m hm).1) margin
  unfold alternatives?
  rw [hscript, cutAtNewlines_below hbefore hopening (List.cons_ne_nil _ _)]
  dsimp only
  rw [Text.intercalate_cutAtNewlines, hbelow, hread, Option.bind_eq_bind, Option.bind_some]
  dsimp only
  rw [hdrop, hpattern.alternativesOf? hne hliteral, if_pos]
  exact List.isPrefixOf_iff_prefix.mpr (List.prefix_append _ _)

end Pattern

end ShellFlow.Shell

import ShellFlow.Proofs.InputType.CheckRuns

/-!
# Texts in an enumeration's check

The texts of an enumeration stand in its check at two places, in the pattern and in the message.
Here the check is read as a whole, by the quoting rules alone.

* **`enumMarks`** — what is read if every text is nothing but text: the expansions and the quotation
  marks are those of the template.
* **`isPlainInDouble_of_run`** — a text inside of double quotes is read as itself only if it is
  plain.
* **`run_beforeMessage`** — up to the message the check is read as it is meant, whatever the texts
  are.
* **`enumeration_marks`** — the whole check.
-/

namespace ShellFlow.InputType

open Shell Text

/-! ## Expansions that have begun

Once a dollar sign has been read in double quotes, the next mark is an expansion or there is none.
So a text that is read as itself has no dollar sign. -/

/-- True of a place inside of an expansion that stands in double quotes. -/
def inExpansion : Place → Bool
  | .afterDollar isQuoted => isQuoted
  | .inBraces isQuoted _ => isQuoted
  | .inName isQuoted _ => isQuoted
  | _ => false

/-- No script ends inside of an expansion that stands in double quotes. -/
theorem finish_of_inExpansion {place : Place} (h : inExpansion place = true) :
    place.finish = none := by
  cases place with
  | afterDollar | inBraces => rfl
  | inName isQuoted name =>
    obtain rfl : isQuoted = true := h
    rfl
  | _ => cases h

/-- An expansion that has begun goes on, or its mark comes first. -/
theorem step_of_inExpansion {place next : Place} {c : Char} {here : List Mark}
    (h : inExpansion place = true) (hstep : step place c = some (here, next)) :
    (here = [] ∧ inExpansion next = true) ∨ ∃ name, here.head? = some (.expansion true name) := by
  cases place with
  | afterDollar isQuoted =>
    obtain rfl : isQuoted = true := h
    rw [step] at hstep
    split at hstep
    · cases hstep
      exact Or.inl ⟨rfl, rfl⟩
    · split at hstep
      · cases hstep
        exact Or.inl ⟨rfl, rfl⟩
      · cases hstep
  -- the name goes on, or the brace closes it
  | inBraces isQuoted name =>
    obtain rfl : isQuoted = true := h
    rw [step] at hstep
    split at hstep
    · cases hstep
      exact Or.inl ⟨rfl, rfl⟩
    · split at hstep
      · cases hstep
        exact Or.inr ⟨_, rfl⟩
      · cases hstep
  -- the name goes on, or any other character closes it
  | inName isQuoted name =>
    obtain rfl : isQuoted = true := h
    rw [step] at hstep
    split at hstep
    · cases hstep
      exact Or.inl ⟨rfl, rfl⟩
    · obtain ⟨after, -, hafter⟩ := Option.map_eq_some_iff.mp hstep
      cases hafter
      exact Or.inr ⟨_, rfl⟩
  | outside | inSingle | inDouble | inComment => cases h

/-- An expansion that has begun is not over at the end, or its mark comes first. Induction on the
characters, by `step_of_inExpansion`. -/
theorem run_of_inExpansion {place last : Place} {cs : List Char} {marks : List Mark}
    (h : inExpansion place = true) (hrun : run place cs = some (marks, last)) :
    (marks = [] ∧ inExpansion last = true) ∨
      ∃ name, marks.head? = some (.expansion true name) := by
  induction cs generalizing place marks with
  | nil =>
    cases hrun
    exact Or.inl ⟨rfl, h⟩
  | cons c rest ih =>
    obtain ⟨here, next, later, hstep, hrest, rfl⟩ := run_cons_eq_some hrun
    rcases step_of_inExpansion h hstep with ⟨rfl, hnext⟩ | ⟨name, hname⟩
    · exact ih hnext hrest
    · refine Or.inr ⟨name, ?_⟩
      rw [List.head?_append, hname]
      rfl

/-! ## Texts in double quotes -/

/-- What is read as the text that it is has nothing special in it. Induction on the text, up to the
first character that is no part of it. -/
theorem isPlainInDouble_of_run {cs rest : List Char} {last : Place} {marks final more : List Mark}
    (hrun : run .inDouble (cs ++ rest) = some (marks, last)) (hfinish : last.finish = some final)
    (hmarks : marks ++ final = cs.map .quoted ++ more) :
    ∀ c ∈ cs, isPlainInDouble c = true := by
  induction cs generalizing marks with
  | nil => exact List.forall_mem_nil _
  | cons c cs ih =>
    obtain ⟨here, next, later, hstep, hrest, rfl⟩ := run_cons_eq_some hrun
    rw [List.map_cons, List.cons_append, List.append_assoc] at hmarks
    rw [step, stepDouble] at hstep
    split at hstep
    · -- the quotes are closed
      cases hstep
      cases hmarks
    · rename_i hquote
      split at hstep
      · -- an expansion begins
        cases hstep
        rcases run_of_inExpansion rfl hrest with ⟨-, hopen⟩ | ⟨name, hname⟩
        · rw [finish_of_inExpansion hopen] at hfinish
          cases hfinish
        · rw [List.nil_append] at hmarks
          have hhead := congrArg List.head? hmarks
          rw [List.head?_append, hname] at hhead
          cases hhead
      · rename_i hdollar
        split at hstep
        · cases hstep
        · rename_i hescape
          cases hstep
          have hplain : isPlainInDouble c = true := by
            simp only [Bool.or_eq_true, decide_eq_true_eq, not_or] at hescape
            simp [isPlainInDouble, hquote, hdollar, hescape]
          rw [List.singleton_append, List.cons.injEq] at hmarks
          exact List.forall_mem_cons.mpr ⟨hplain, ih hrest hmarks.2⟩

/-! ## The whole check -/

/-- The check up to the texts of the pattern. -/
def beforePattern : String :=
  joinLines ["if [ -n \"$VALUE\" ]; then", "  case \"$VALUE\" in", "    "]

/-- The check between the texts of the pattern and those of the message. -/
def beforeMessage : String :=
  joinLines [") ;;", "    *)", "      echo \"Error: $NAME must be one of: "]

/-- The check behind the texts of the message. -/
def afterMessage : String :=
  joinLines [". Got: $VALUE\" >&2", "      exit 1", "      ;;", "  esac", "fi", ""]

/-- The check as characters, in four parts: up to the pattern, the pattern, from there to the
message, and the message with what follows it. -/
theorem toList_enumCheck (allowed : List String) :
    (enumCheck allowed).toList =
      beforePattern.toList ++ ("|".intercalate (allowed.map quote)).toList ++ beforeMessage.toList
        ++ ((", ".intercalate allowed).toList ++ afterMessage.toList) := by
  unfold enumCheck beforePattern beforeMessage afterMessage joinLines
  simp only [String.toList_intercalate, List.map_cons, List.map_nil, List.intercalate_cons_cons,
    List.intercalate_singleton, String.toList_append, List.append_assoc]

def patternMarks (words : List Word) : List Mark :=
  "if [ -n ".toList.map .bare ++ valueWord ++ " ]; then\n  case ".toList.map .bare ++ valueWord
    ++ " in\n    ".toList.map .bare ++ [Mark.bare '|'].intercalate words

def complaintMarks : List Mark :=
  ") ;;\n    *)\n      echo ".toList.map .bare ++ .quote :: "Error: ".toList.map .quoted
    ++ .expansion true "NAME" :: " must be one of: ".toList.map .quoted

def endMarks : List Mark :=
  ". Got: ".toList.map .quoted ++ .expansion true "VALUE" :: .quote
    :: " >&2\n      exit 1\n      ;;\n  esac\nfi\n".toList.map .bare

/-- What is read in the check of an enumeration if its texts are nothing but text: `words` between
the bars of the pattern, and `message` inside of double quotes. -/
def enumMarks (words : List Word) (message : List Char) : List Mark :=
  patternMarks words ++ complaintMarks ++ (message.map .quoted ++ endMarks)

/-- If the texts expand nothing, the check expands what its template expands. -/
theorem expanded_enumMarks {words : List Word} (h : ∀ word ∈ words, word.expanded = [])
    (message : List Char) :
    Word.expanded (enumMarks words message) = ["VALUE", "VALUE", "NAME", "VALUE"] := by
  have hbars : Word.expanded ([Mark.bare '|'].intercalate words) = [] := by
    refine List.filterMap_eq_nil_iff.mpr (forall_mem_intercalate (by simp [Mark.expanded?]) ?_)
    exact fun word hword => List.filterMap_eq_nil_iff.mp (h word hword)
  have hvalue : valueWord.expanded = ["VALUE"] := rfl
  have hpattern : Word.expanded (patternMarks words) = ["VALUE", "VALUE"] := by
    unfold patternMarks
    rw [Word.expanded_append, hbars, List.append_nil]
    rfl
  have hcomplaint : Word.expanded complaintMarks = ["NAME"] := rfl
  have hend : Word.expanded endMarks = ["VALUE"] := rfl
  unfold enumMarks
  rw [Word.expanded_append, Word.expanded_append, Word.expanded_append, hpattern, hcomplaint, hend,
    Word.expanded_map_quoted]
  rfl

/-- Up to the message the check is read as it is meant, whatever the texts are. -/
theorem run_beforeMessage {pattern : List Char} {words : List Word}
    (h : ReadsPattern pattern words) :
    run (.outside true) (beforePattern.toList ++ pattern ++ beforeMessage.toList) =
      some (patternMarks words ++ complaintMarks, .inDouble) := by
  obtain ⟨inStart, hwords⟩ := h.1
  have hopen : run (.outside true) beforePattern.toList =
      some ("if [ -n ".toList.map .bare ++ valueWord ++ " ]; then\n  case ".toList.map .bare
        ++ valueWord ++ " in\n    ".toList.map .bare, .outside true) := by
    rw [beforePattern, joinLines, String.toList_intercalate]
    rfl
  have hclose : run (.outside inStart) beforeMessage.toList = some (complaintMarks, .inDouble) := by
    rw [beforeMessage, joinLines, String.toList_intercalate]
    cases inStart <;> rfl
  exact run_trans (run_trans hopen hwords) hclose

/-- After the message the check is read as it is meant, if the double quotes are still open
there. -/
theorem run_afterMessage : run .inDouble afterMessage.toList = some (endMarks, .outside true) := by
  rw [afterMessage, joinLines, String.toList_intercalate]
  rfl

/-- The joined message is plain exactly if each text is: the separators are. -/
theorem isPlainInDouble_message_iff (allowed : List String) :
    (∀ c ∈ (", ".intercalate allowed).toList, isPlainInDouble c = true) ↔
      ∀ s ∈ allowed, IsPlainText s := by
  refine ⟨fun h s hs c hc => h c ?_, isPlainInDouble_message⟩
  rw [String.toList_intercalate]
  exact mem_intercalate hc (List.mem_map_of_mem hs)

/-- A text whose front leads into double quotes is read as itself from there on exactly if it is
plain. -/
theorem marks?_eq_some_iff {script : String} {front message back : List Char}
    {frontMarks backMarks : List Mark} {inStart : Bool}
    (hscript : script.toList = front ++ (message ++ back))
    (hfront : run (.outside true) front = some (frontMarks, .inDouble))
    (hback : run .inDouble back = some (backMarks, .outside inStart)) :
    marks? script = some (frontMarks ++ (message.map .quoted ++ backMarks)) ↔
      ∀ c ∈ message, isPlainInDouble c = true := by
  constructor
  · intro h
    rw [marks?, hscript, run_append, hfront, Option.bind_some, Option.bind_eq_bind] at h
    obtain ⟨⟨marks, last⟩, hrun, h⟩ := Option.bind_eq_some_iff.mp h
    obtain ⟨⟨later, last'⟩, hlater, heq⟩ := Option.map_eq_some_iff.mp hrun
    cases heq
    obtain ⟨final, hfinish, hmarks⟩ := Option.bind_eq_some_iff.mp h
    injection hmarks with hmarks
    rw [List.append_assoc] at hmarks
    exact isPlainInDouble_of_run hlater hfinish (List.append_cancel_left hmarks)
  · intro h
    have hrun := run_trans hfront (run_trans (run_inDouble h) hback)
    rw [← hscript] at hrun
    exact marks?_of_run hrun

/-- **An enumeration of any texts, read as a whole.** Each word of the pattern is one text and
nothing else, and up to the message the check is read as it is meant. In the message the texts stand
as they are. The check is read as a whole as it is meant, with no expansions but those of the
template, exactly if no text has a character that is special inside of double quotes; as such count
all backslashes and dollar signs, since the reader gives up where one of them would stand for
itself. What comes before the message and what comes after it are fixed, so only the texts in
between can be read wrongly. -/
theorem enumeration_marks {allowed : List String} (hne : allowed ≠ []) :
    ∃ (t : InputType) (words : List Word), enumeration (allowed.map .text) = .ok t
      ∧ words.map Word.literal? = allowed.map some
      ∧ (∃ front, t.runtimeCheck.toList =
            front ++ ((", ".intercalate allowed).toList ++ afterMessage.toList)
          ∧ run (.outside true) front = some (patternMarks words ++ complaintMarks, .inDouble))
      ∧ Word.expanded (enumMarks words (", ".intercalate allowed).toList) =
          ["VALUE", "VALUE", "NAME", "VALUE"]
      ∧ (marks? t.runtimeCheck = some (enumMarks words (", ".intercalate allowed).toList) ↔
          ∀ s ∈ allowed, IsPlainText s) := by
  obtain ⟨words, hpattern, hliteral, hexpanded⟩ := exists_readsPattern allowed
  have hfront := run_beforeMessage hpattern
  refine ⟨ofTexts allowed, words, enumeration_texts hne, hliteral,
    ⟨_, toList_enumCheck allowed, hfront⟩, expanded_enumMarks hexpanded _, ?_⟩
  rw [← isPlainInDouble_message_iff]
  exact marks?_eq_some_iff (toList_enumCheck allowed) hfront run_afterMessage

/-- A text that names a variable: the word in the pattern is this name, but the message holds the
value of the variable. -/
theorem enumeration_marks_variable :
    ["$HOME"] ≠ [] ∧ ∃ (t : InputType) (words : List Word), enumeration [.text "$HOME"] = .ok t
      ∧ words.map Word.literal? = [some "$HOME"]
      ∧ marks? t.runtimeCheck ≠ some (enumMarks words "$HOME".toList)
      ∧ (marks? t.runtimeCheck).map Word.expanded =
          some ["VALUE", "VALUE", "NAME", "HOME", "VALUE"] := by
  have hne : ["$HOME"] ≠ [] := by decide
  obtain ⟨t, words, ht, hliteral, ⟨front, hscript, hfront⟩, hexpanded, hmarks⟩ :=
    enumeration_marks hne
  refine ⟨hne, t, words, ht, hliteral, fun h => ?_, ?_⟩
  · exact absurd (hmarks.mp h "$HOME" List.mem_cons_self) (by decide)
  · -- the name of the variable is closed by the quotation mark behind it
    have hname : run .inDouble "$HOME".toList = some ([], .inName true "HOME".toList) := rfl
    have hvalue : run (.inName true "HOME".toList) afterMessage.toList =
        some (.expansion true "HOME" :: endMarks, .outside true) := by
      rw [afterMessage, joinLines, String.toList_intercalate]
      rfl
    have hrun := run_trans hfront (run_trans hname hvalue)
    have htemplate : Word.expanded (enumMarks words "$HOME".toList) =
        Word.expanded (patternMarks words ++ complaintMarks) ++ ["VALUE"] := by
      rw [enumMarks, Word.expanded_append (patternMarks words ++ complaintMarks)]
      rfl
    have hbefore : ["VALUE", "VALUE", "NAME"] =
        Word.expanded (patternMarks words ++ complaintMarks) :=
      List.append_cancel_right (hexpanded.symm.trans htemplate)
    rw [marks?_of_run (hscript ▸ hrun), Option.map_some,
      Word.expanded_append (patternMarks words ++ complaintMarks), ← hbefore]
    rfl

end ShellFlow.InputType

import ShellFlow.Proofs.Shell.Roles
import ShellFlow.Proofs.Text.Lines

/-!
# Templates of scripts

A script that is written around a name: code that does not change, and places where the name goes,
inside of double quotes as it is, or outside of quotes as the word for a text that is made of it. The
code can be read without the name. What is read in the script is then known, if the name is nothing
but text where it stands in double quotes.

* **`Part`**, **`charsOf`** — the parts of a template, and its characters for a name.
* **`readTemplate`**, **`rolesOf`** — what is read in a template, and its roles for a name.
* **`run_charsOf_iff`**, **`roles?_charsOf_iff`** — a script is read as its template is, exactly if
  the name is text wherever it stands in double quotes.
* **`Reads.append`**, **`reads_flatMap`** — a template can be read part by part.
* **`codeLines`**, **`wordLine`**, **`messageLine`** — templates of lines.
-/

namespace ShellFlow.Script

open Shell Text

inductive Part where
  | code (s : String)
  /-- The name, inside of double quotes, and the character behind it. -/
  | message (next : Char)
  /-- The word for a text that is made of the name. -/
  | word (text : String → String)

/-- The characters of a part for a name. -/
def Part.chars (name : String) : Part → List Char
  | .code s => s.toList
  | .message next => name.toList ++ [next]
  | .word text => quoteChars (text name).toList

/-- The text that a word is made for. -/
def Part.text? : Part → Option (String → String)
  | .word text => some text
  | _ => none

/-- The characters of a template for a name. -/
def charsOf (name : String) (template : List Part) : List Char :=
  template.flatMap (Part.chars name)

/-- What is read in a part of a template. -/
inductive Reading where
  | code (roles : List Role)
  /-- The name, as text in quotes, and the roles of the character behind it. -/
  | message (after : List Role)
  | word (text : String → String)

/-- The roles of a part for a name. -/
def Reading.roles (name : String) : Reading → List Role
  | .code roles => roles
  | .message after => name.toList.map .quoted ++ after
  | .word text => wordRoles (text name)

/-- The roles of a template for a name. -/
def rolesOf (name : String) (readings : List Reading) : List Role :=
  readings.flatMap (Reading.roles name)

/-- Reads a part without the name. A message must stand in double quotes and a word outside of
quotes. -/
def readPart : Cursor → Part → Option (Reading × Cursor)
  | cursor, .code s => (run cursor s.toList).map fun read => (.code read.1, read.2)
  | ⟨.inDouble, enclosing⟩, .message next =>
    (step ⟨.inDouble, enclosing⟩ next).map fun read => (.message read.1, read.2)
  | ⟨.outside _, enclosing⟩, .word text => some (.word text, ⟨.outside false, enclosing⟩)
  | _, _ => none

/-- Reads a template without the name. -/
def readTemplate : Cursor → List Part → Option (List Reading × Cursor)
  | cursor, [] => some ([], cursor)
  | cursor, part :: rest => do
    let (reading, next) ← readPart cursor part
    let (readings, last) ← readTemplate next rest
    some (reading :: readings, last)

/-- True of a name that is text wherever a template has it in double quotes. -/
def IsTextIn (template : List Part) (name : String) : Prop :=
  ∀ next, Part.message next ∈ template → isLiteralBefore next name.toList = true

/-! ## Scripts and their templates -/

/-- The reading of a template is that of its first part, and of the rest from where the first part
ends. -/
theorem readTemplate_cons_eq_some {cursor last : Cursor} {part : Part} {rest : List Part}
    {readings : List Reading} :
    readTemplate cursor (part :: rest) = some (readings, last) ↔
      ∃ reading next more, readPart cursor part = some (reading, next)
        ∧ readTemplate next rest = some (more, last) ∧ readings = reading :: more := by
  rw [readTemplate, Option.bind_eq_bind, Option.bind_eq_some_iff]
  constructor
  · rintro ⟨⟨reading, next⟩, hpart, h⟩
    obtain ⟨⟨more, last'⟩, hrest, h⟩ := Option.bind_eq_some_iff.mp h
    cases h
    exact ⟨reading, next, more, hpart, hrest, rfl⟩
  · rintro ⟨reading, next, more, hpart, hrest, rfl⟩
    exact ⟨(reading, next), hpart, Option.bind_eq_some_iff.mpr ⟨(more, last), hrest, rfl⟩⟩

section Fill

variable {cursor middle last : Cursor} {rest : List Char} {later : List Role}

/-- One part is read as in the template, and what comes behind it as if it stood there alone. -/
theorem run_chars_iff {part : Part} {reading : Reading}
    (h : readPart cursor part = some (reading, middle)) (name : String) :
    run cursor (part.chars name ++ rest) = some (reading.roles name ++ later, last) ↔
      IsTextIn [part] name ∧ run middle rest = some (later, last) := by
  cases part with
  | code s =>
    obtain ⟨⟨roles, next⟩, hrun, heq⟩ := Option.map_eq_some_iff.mp h
    cases heq
    have hnone : IsTextIn [Part.code s] name := fun next hmem => by simp at hmem
    rw [and_iff_right hnone]
    exact run_append_iff hrun
  -- only here does the name matter, as it stands in double quotes without quoting of its own
  | message next =>
    obtain ⟨spot, enclosing⟩ := cursor
    cases spot with
    | inDouble =>
      obtain ⟨⟨after, behind⟩, hstep, heq⟩ := Option.map_eq_some_iff.mp h
      cases heq
      have htext : IsTextIn [Part.message next] name ↔
          isLiteralBefore next name.toList = true := by
        simp [IsTextIn]
      have hchars : Part.chars name (.message next) ++ rest = name.toList ++ next :: rest := by
        simp [Part.chars]
      have hroles : Reading.roles name (.message after) ++ later =
          name.toList.map .quoted ++ (after ++ later) := List.append_assoc _ _ _
      rw [htext, hchars, hroles, run_inDouble_iff]
      exact and_congr_right fun _ => run_append_iff (run_singleton hstep)
    | outside | inSingle | inComment | escaped | afterDollar | inBraces | inName => cases h
  -- a quoted name is read as one word, whatever it is
  | word text =>
    obtain ⟨spot, enclosing⟩ := cursor
    cases spot with
    | outside atStart =>
      cases h
      have hnone : IsTextIn [Part.word text] name := fun next hmem => by simp at hmem
      rw [and_iff_right hnone]
      exact run_append_iff (run_quoteChars (text name) enclosing atStart)
    | inDouble | inSingle | inComment | escaped | afterDollar | inBraces | inName => cases h

/-- A script is read as its template is, with the name filled in, exactly if the name is text
wherever it stands in double quotes; and what comes behind the script is read as if it stood there
alone. Induction on the template. -/
theorem run_charsOf_iff {template : List Part} {readings : List Reading}
    (h : readTemplate cursor template = some (readings, middle)) (name : String) :
    run cursor (charsOf name template ++ rest) = some (rolesOf name readings ++ later, last) ↔
      IsTextIn template name ∧ run middle rest = some (later, last) := by
  induction template generalizing cursor readings with
  | nil =>
    cases h
    exact (and_iff_right fun _ hmem => absurd hmem List.not_mem_nil).symm
  | cons part parts ih =>
    obtain ⟨reading, next, more, hpart, hparts, rfl⟩ := readTemplate_cons_eq_some.mp h
    have hsplit : IsTextIn (part :: parts) name ↔ IsTextIn [part] name ∧ IsTextIn parts name := by
      simp [IsTextIn, or_imp, forall_and]
    rw [hsplit, and_assoc, ← ih hparts, ← run_chars_iff hpart, charsOf, rolesOf, List.flatMap_cons,
      List.flatMap_cons, List.append_assoc, List.append_assoc]
    rfl

/-- Scripts of one template for several names, one after the other. -/
theorem run_flatMap_charsOf_iff {template : List Part} {readings : List Reading}
    (h : readTemplate cursor template = some (readings, cursor)) (names : List String) :
    run cursor (names.flatMap (charsOf · template) ++ rest) =
        some (names.flatMap (rolesOf · readings) ++ later, last) ↔
      (∀ name ∈ names, IsTextIn template name) ∧ run cursor rest = some (later, last) := by
  induction names with
  | nil => simp
  | cons name more ih =>
    rw [List.flatMap_cons, List.flatMap_cons, List.append_assoc, List.append_assoc,
      run_charsOf_iff h, ih, List.forall_mem_cons, and_assoc]

end Fill

/-- A script that is read exactly under some condition, and then to its end. -/
theorem roles?_eq_some_iff_of_run {p : Prop} {script : String} {roles : List Role}
    (h : ∀ last, run .start script.toList = some (roles, last) ↔
      p ∧ run .start [] = some ([], last)) :
    roles? script = some roles ↔ p := by
  rw [roles?, Option.bind_eq_bind, Option.bind_eq_some_iff]
  constructor
  · rintro ⟨⟨roles', last⟩, hrun, hclosed⟩
    dsimp only at hclosed
    split at hclosed
    · cases hclosed
      exact ((h last).mp hrun).1
    · cases hclosed
  · intro hp
    exact ⟨(roles, .start), (h .start).mpr ⟨hp, rfl⟩, rfl⟩

/-- A script of one template. -/
theorem roles?_charsOf_iff {script : String} {template : List Part} {readings : List Reading}
    {name : String} (hscript : script.toList = charsOf name template)
    (h : readTemplate .start template = some (readings, .start)) :
    roles? script = some (rolesOf name readings) ↔ IsTextIn template name := by
  refine roles?_eq_some_iff_of_run fun last => ?_
  rw [← run_charsOf_iff h, ← hscript, List.append_nil, List.append_nil]

/-- A script of one template for several names, between two pieces of code. -/
theorem roles?_flatMap_charsOf_iff {script front back : String} {template : List Part}
    {readings : List Reading} {names : List String} {frontRoles backRoles : List Role}
    (hscript : script.toList =
      front.toList ++ names.flatMap (charsOf · template) ++ back.toList)
    (hfront : run .start front.toList = some (frontRoles, .start))
    (h : readTemplate .start template = some (readings, .start))
    (hback : run .start back.toList = some (backRoles, .start)) :
    roles? script = some (frontRoles ++ names.flatMap (rolesOf · readings) ++ backRoles) ↔
      ∀ name ∈ names, IsTextIn template name := by
  refine roles?_eq_some_iff_of_run fun last => ?_
  have hend : run .start back.toList = some (backRoles, last) ↔
      run .start [] = some ([], last) := by
    rw [hback]
    simp [run]
  rw [hscript, List.append_assoc, List.append_assoc, run_append_iff hfront,
    run_flatMap_charsOf_iff h, hend]

/-! ## Reading part by part

The name of a job can break the reading in one kind of part only, and there it breaks it or is read
as text. -/

/-- A template can be read from one place to another. -/
def Reads (cursor : Cursor) (template : List Part) (last : Cursor) : Prop :=
  ∃ readings, readTemplate cursor template = some (readings, last)

theorem reads_nil (cursor : Cursor) : Reads cursor [] cursor := ⟨[], rfl⟩

/-- Templates that are read one after the other. -/
theorem Reads.append {cursor middle last : Cursor} {first second : List Part}
    (h₁ : Reads cursor first middle) (h₂ : Reads middle second last) :
    Reads cursor (first ++ second) last := by
  obtain ⟨readings, h₁⟩ := h₁
  induction first generalizing cursor readings with
  | nil =>
    cases h₁
    exact h₂
  | cons part rest ih =>
    obtain ⟨reading, next, more, hpart, hrest, rfl⟩ := readTemplate_cons_eq_some.mp h₁
    obtain ⟨others, hothers⟩ := ih more hrest
    exact ⟨reading :: others,
      readTemplate_cons_eq_some.mpr ⟨reading, next, others, hpart, hothers, rfl⟩⟩

/-- Templates that each lead back to where they began do so one after the other. -/
theorem reads_flatMap {α : Type} {cursor : Cursor} {parts : α → List Part} {l : List α}
    (h : ∀ a ∈ l, Reads cursor (parts a) cursor) : Reads cursor (l.flatMap parts) cursor := by
  induction l with
  | nil => exact reads_nil cursor
  | cons a rest ih =>
    obtain ⟨ha, hrest⟩ := List.forall_mem_cons.mp h
    exact ha.append (ih hrest)

/-- A text can be read from one place to another. -/
def ReadsText (cursor : Cursor) (s : String) (last : Cursor) : Prop :=
  ∃ roles, run cursor s.toList = some (roles, last)

theorem ReadsText.append {cursor middle last : Cursor} {first second : String}
    (h₁ : ReadsText cursor first middle) (h₂ : ReadsText middle second last) :
    ReadsText cursor (first ++ second) last := by
  obtain ⟨roles, h₁⟩ := h₁
  obtain ⟨later, h₂⟩ := h₂
  refine ⟨roles ++ later, ?_⟩
  rw [String.toList_append]
  exact run_trans h₁ h₂

theorem reads_code {cursor last : Cursor} {s : String} (h : ReadsText cursor s last) :
    Reads cursor [.code s] last := by
  obtain ⟨roles, h⟩ := h
  refine ⟨[.code roles], readTemplate_cons_eq_some.mpr ⟨.code roles, last, [], ?_, rfl, rfl⟩⟩
  rw [readPart, h]
  rfl

/-- A place for a quoted name is read outside of quotes and leaves the reader in the middle of a
word, at every depth of substitutions. -/
theorem reads_word (text : String → String) (atStart : Bool) (enclosing : List Bool) :
    Reads ⟨.outside atStart, enclosing⟩ [.word text] ⟨.outside false, enclosing⟩ := ⟨_, rfl⟩

/-! ## Lines -/

def codeLines (lines : List String) : List Part := lines.map fun line => .code (line ++ "\n")

/-- A line with a word in it. -/
def wordLine (front : String) (text : String → String) (back : String) : List Part :=
  [.code front, .word text, .code (back ++ "\n")]

/-- A line with the name in double quotes, before the character `next`. -/
def messageLine (front : String) (next : Char) (back : String) : List Part :=
  [.code front, .message next, .code (back ++ "\n")]

/-- A template of fixed lines has no place for a name, so its text does not depend on one. -/
theorem charsOf_codeLines (name : String) (lines : List String) :
    charsOf name (codeLines lines) = charsOfLines lines := by
  rw [charsOf, codeLines, List.flatMap_map, charsOfLines]
  refine congrArg (lines.flatMap ·) (funext fun line => ?_)
  rw [Part.chars, String.toList_append]
  rfl

theorem charsOf_append (name : String) (first second : List Part) :
    charsOf name (first ++ second) = charsOf name first ++ charsOf name second :=
  List.flatMap_append

theorem charsOf_wordLine (name front back : String) (text : String → String) :
    charsOf name (wordLine front text back) =
      charsOfLines [front ++ quote (text name) ++ back] := by
  simp [charsOf, Part.chars, wordLine, charsOfLines, quote]

/-- The line with a name in a message, written out. The name stands there as it is, without quoting
of its own. -/
theorem charsOf_messageLine (name front back : String) (next : Char) :
    charsOf name (messageLine front next back) =
      charsOfLines [front ++ name ++ String.singleton next ++ back] := by
  simp [charsOf, Part.chars, messageLine, charsOfLines]

/-! ### Names and words in lines -/

section Lines

variable {first second : List Part} {name : String}

@[simp]
theorem isTextIn_append :
    IsTextIn (first ++ second) name ↔ IsTextIn first name ∧ IsTextIn second name := by
  simp [IsTextIn, or_imp, forall_and]

@[simp]
theorem isTextIn_flatMap {α : Type} {l : List α} {parts : α → List Part} :
    IsTextIn (l.flatMap parts) name ↔ ∀ a ∈ l, IsTextIn (parts a) name := by
  simp only [IsTextIn, List.mem_flatMap]
  exact ⟨fun h a ha next hmem => h next ⟨a, ha, hmem⟩,
    fun h next ⟨a, ha, hmem⟩ => h a ha next hmem⟩

/-- Lines without a place for a name have none where it could be anything else than text. -/
@[simp]
theorem isTextIn_codeLines (lines : List String) : IsTextIn (codeLines lines) name := by
  simp [IsTextIn, codeLines]

@[simp]
theorem isTextIn_wordLine (front back : String) (text : String → String) :
    IsTextIn (wordLine front text back) name := by
  simp [IsTextIn, wordLine]

/-- A name in a message is text exactly if it is literal before the character that follows it. All
conditions on names come from lines of this kind. -/
@[simp]
theorem isTextIn_messageLine (front back : String) (next : Char) :
    IsTextIn (messageLine front next back) name ↔ isLiteralBefore next name.toList = true := by
  simp [IsTextIn, messageLine]

/-- The texts that a template has words for. -/
def textsOf (template : List Part) : List (String → String) := template.filterMap Part.text?

@[simp]
theorem textsOf_append : textsOf (first ++ second) = textsOf first ++ textsOf second :=
  List.filterMap_append

@[simp]
theorem textsOf_flatMap {α : Type} (l : List α) (parts : α → List Part) :
    textsOf (l.flatMap parts) = l.flatMap fun a => textsOf (parts a) :=
  List.filterMap_flatMap

@[simp]
theorem textsOf_codeLines (lines : List String) : textsOf (codeLines lines) = [] := by
  simp [textsOf, codeLines, Part.text?]

@[simp]
theorem textsOf_wordLine (front back : String) (text : String → String) :
    textsOf (wordLine front text back) = [text] := rfl

@[simp]
theorem textsOf_messageLine (front back : String) (next : Char) :
    textsOf (messageLine front next back) = [] := rfl

end Lines

/-! ### Reading line by line -/

/-- A line that is read by itself, so that the next one begins as a script does. -/
def ReadsAlone (line : String) : Prop := ReadsText .start (line ++ "\n") .start

/-- Fixed lines that can be read alone can be read below each other. -/
theorem reads_codeLines {lines : List String} (h : ∀ line ∈ lines, ReadsAlone line) :
    Reads .start (codeLines lines) .start := by
  induction lines with
  | nil => exact reads_nil _
  | cons line rest ih =>
    obtain ⟨hline, hrest⟩ := List.forall_mem_cons.mp h
    exact (reads_code hline).append (ih hrest)

/-- A line with a quoted name can be read if what stands in front of the name ends outside of quotes
and what stands behind it can be read from there. -/
theorem reads_wordLine {cursor last : Cursor} {enclosing : List Bool} {atStart : Bool}
    {front back : String} (hfront : ReadsText cursor front ⟨.outside atStart, enclosing⟩)
    (hback : ReadsText ⟨.outside false, enclosing⟩ (back ++ "\n") last)
    (text : String → String) : Reads cursor (wordLine front text back) last :=
  ((reads_code hfront).append (reads_word text atStart enclosing)).append (reads_code hback)

/-! ## Names of variables -/

/-- True of a place where the characters of names are read one by one without leaving it. -/
def Spot.keepsNames : Spot → Bool
  | .outside atStart => !atStart
  | .inSingle | .inDouble | .inComment | .inBraces _ | .inName _ => true
  | .escaped | .afterDollar _ => false

/-- The role of a character of a name. -/
def Spot.roleInName : Spot → Char → Role
  | .outside _, c => .bare c
  | .inComment, c => .comment c
  | .inBraces _, c | .inName _, c => .expansion c
  | _, c => .quoted c

/-- A character of a name leaves the reader in the spot where it is, for the spots that keep names;
its role says which spot that is. -/
theorem step_of_isIdentChar {spot : Spot} (h : spot.keepsNames = true) (enclosing : List Bool)
    {c : Char} (hc : isIdentChar c = true) :
    step ⟨spot, enclosing⟩ c = some ([spot.roleInName c], ⟨spot, enclosing⟩) := by
  have hsafe := isSafe_of_isIdentChar hc
  have hne : ∀ d, isSafe d = false → c ≠ d := fun d hd => ne_of_isSafe hsafe hd
  cases spot with
  | outside atStart =>
    obtain rfl : atStart = false := by simpa [Spot.keepsNames] using h
    exact step_of_isSafe hsafe enclosing false
  | inSingle => exact if_neg (hne _ (by decide))
  | inDouble =>
    simp [step, stepDouble, hne _ (show isSafe '"' = false by decide),
      hne _ (show isSafe '$' = false by decide), hne _ (show isSafe '\\' = false by decide),
      hne _ (show isSafe '`' = false by decide), Spot.roleInName]
  | inComment => exact if_neg (hne _ (by decide))
  | inBraces isQuoted =>
    refine if_pos ?_
    rw [hc]
    rfl
  | inName isQuoted => exact if_pos hc
  | escaped | afterDollar => cases h

theorem readsText_of_isIdentChar {spot : Spot} (h : spot.keepsNames = true)
    (enclosing : List Bool) {s : String} (hs : ∀ c ∈ s.toList, isIdentChar c = true) :
    ReadsText ⟨spot, enclosing⟩ s ⟨spot, enclosing⟩ :=
  ⟨_, run_map fun c hc => step_of_isIdentChar h enclosing (hs c hc)⟩

theorem readsText_of_isIdentifier {spot : Spot} (h : spot.keepsNames = true)
    (enclosing : List Bool) {s : String} (hs : isIdentifier s = true) :
    ReadsText ⟨spot, enclosing⟩ s ⟨spot, enclosing⟩ :=
  readsText_of_isIdentChar h enclosing (isIdentChar_of_mem_identifier hs)

/-- A sanitized text has characters of names only, so it can stand in every spot that keeps
names. -/
theorem readsText_sanitize {spot : Spot} (h : spot.keepsNames = true) (enclosing : List Bool)
    (s : String) : ReadsText ⟨spot, enclosing⟩ (sanitize s) ⟨spot, enclosing⟩ :=
  readsText_of_isIdentChar h enclosing (isIdentChar_of_mem_sanitize s)

/-- A dollar sign leads into the identifier behind it. -/
theorem readsText_afterDollar (isQuoted : Bool) (enclosing : List Bool) {s : String}
    (hs : isIdentifier s = true) :
    ReadsText ⟨.afterDollar isQuoted, enclosing⟩ s ⟨.inName isQuoted, enclosing⟩ := by
  obtain ⟨c, rest, hlist, hc, hrest⟩ := (isIdentifier_iff s).mp hs
  have hne : ∀ d, isSafe d = false → c ≠ d := fun d hd =>
    ne_of_isSafe (isSafe_of_isIdentChar (isIdentChar_of_isIdentStart hc)) hd
  have hstep : step ⟨.afterDollar isQuoted, enclosing⟩ c =
      some ([.expansion '$', .expansion c], ⟨.inName isQuoted, enclosing⟩) := by
    simp [step, hne _ (show isSafe '\x7b' = false by decide),
      hne _ (show isSafe '(' = false by decide), hc]
  rw [ReadsText, hlist]
  exact ⟨_, run_cons hstep
    (run_map fun d hd => @step_of_isIdentChar (.inName isQuoted) rfl _ _ (hrest d hd))⟩

/-- Names with blanks between them. -/
theorem readsText_names {enclosing : List Bool} {s : String}
    (hs : ∀ c ∈ s.toList, isIdentChar c = true ∨ c = ' ') (atStart : Bool) :
    ∃ atEnd, ReadsText ⟨.outside atStart, enclosing⟩ s ⟨.outside atEnd, enclosing⟩ := by
  unfold ReadsText
  generalize s.toList = cs at hs ⊢
  induction cs generalizing atStart with
  | nil => exact ⟨atStart, [], rfl⟩
  | cons c rest ih =>
    obtain ⟨hc, hrest⟩ := List.forall_mem_cons.mp hs
    have hstep : ∃ next, step ⟨.outside atStart, enclosing⟩ c =
        some ([.bare c], ⟨.outside next, enclosing⟩) := by
      rcases hc with hc | rfl
      · exact ⟨false, step_of_isSafe (isSafe_of_isIdentChar hc) enclosing atStart⟩
      · cases enclosing <;> exact ⟨true, rfl⟩
    obtain ⟨next, hstep⟩ := hstep
    obtain ⟨atEnd, roles, hrun⟩ := ih next hrest
    exact ⟨atEnd, _, run_cons hstep hrun⟩

end ShellFlow.Script

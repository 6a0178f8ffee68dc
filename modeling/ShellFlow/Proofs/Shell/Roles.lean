import ShellFlow.Proofs.Shell.Spelling

/-!
# Roles of characters

Scripts with command substitutions, and with operators in their expansions, are more than the reader
of marks can read. The reader here says of each character of a script what it is for the shell: code
outside of quotes, text in quotes, a quotation mark, or part of an expansion, of the frame of a
command substitution, or of a comment. In a command substitution the quoting begins anew, so the
reader keeps a stack of the substitutions that are open. It gives up at backquotes, at backslashes
that take the meaning from a character, and at expansions of anything but a variable.

* **`run_append_iff`** — reading goes from left to right, so a script can be read piece by piece.
* **`isLiteralBefore`**, **`run_inDouble_iff`** — which texts stand for themselves inside of double
  quotes.
* **`wordRoles`**, **`run_quoteChars`** — a quoted text is read as one word, wherever it stands.
* **`literal?_wordRoles`** — and the word stands for the text.
-/

namespace ShellFlow.Script

open Shell

/-! ## The reader -/

/-- What a character of a script is for the shell that reads it. -/
inductive Role where
  /-- A character outside of quotes. -/
  | bare (c : Char)
  /-- A character inside of quotes, which stands for itself. -/
  | quoted (c : Char)
  /-- A quotation mark that opens or closes. -/
  | quote
  /-- Part of the expansion of a variable. -/
  | expansion (c : Char)
  /-- Part of the frame around the commands of a substitution. -/
  | substitution (c : Char)
  | comment (c : Char)
  deriving DecidableEq, Repr

/-- Where a reader stands between two characters, inside of the innermost substitution. -/
inductive Spot where
  /-- Outside of quotes; `atStart` says whether a word may start here. -/
  | outside (atStart : Bool)
  | inSingle
  | inDouble
  | inComment
  /-- After a backslash in double quotes. -/
  | escaped
  /-- After a dollar sign. -/
  | afterDollar (isQuoted : Bool)
  /-- In the braces of an expansion. -/
  | inBraces (isQuoted : Bool)
  /-- In a name without braces. -/
  | inName (isQuoted : Bool)
  deriving DecidableEq, Repr

/-- The spot of a reader, and the substitutions that are open there, the innermost first; each says
whether it stands in double quotes. -/
structure Cursor where
  spot : Spot
  enclosing : List Bool
  deriving DecidableEq, Repr

/-- Where a script begins, and where each of its lines begins outside of quotes. -/
def Cursor.start : Cursor := ⟨.outside true, []⟩

def Spot.around (isQuoted : Bool) : Spot := if isQuoted then .inDouble else .outside false

/-- The characters between the braces of an expansion besides those of a name: indirection, and the
operator for a variable that is not set. -/
def inExpansion : List Char := ['!', ':', '-']

/-- The characters besides names and brackets that make an expansion with a dollar sign before. -/
def startsParameter (c : Char) : Bool := c.isDigit || "@*#?-$![".toList.contains c

/-- The characters that a backslash in double quotes takes the meaning from. -/
def escapable : List Char := ['$', '`', '"', '\\', '\n']

def stepDouble (enclosing : List Bool) (c : Char) : Option (List Role × Cursor) :=
  if c = '"' then some ([.quote], ⟨.outside false, enclosing⟩)
  else if c = '$' then some ([], ⟨.afterDollar true, enclosing⟩)
  else if c = '\\' then some ([], ⟨.escaped, enclosing⟩)
  else if c = '`' then none
  else some ([.quoted c], ⟨.inDouble, enclosing⟩)

def stepOutside (enclosing : List Bool) (atStart : Bool) (c : Char) :
    Option (List Role × Cursor) :=
  if c = '\'' then some ([.quote], ⟨.inSingle, enclosing⟩)
  else if c = '"' then some ([.quote], ⟨.inDouble, enclosing⟩)
  else if c = '$' then some ([], ⟨.afterDollar false, enclosing⟩)
  else if c = '\\' || c = '`' then none
  else if c = '#' && atStart then some ([.comment c], ⟨.inComment, enclosing⟩)
  else
    match enclosing with
    | [] => some ([.bare c], ⟨.outside (isSeparator c), []⟩)
    | isQuoted :: outer =>
      if c = ')' then some ([.substitution c], ⟨.around isQuoted, outer⟩)
      -- a parenthesis of another kind would have to be closed first
      else if c = '(' then none
      else some ([.bare c], ⟨.outside (isSeparator c), isQuoted :: outer⟩)

def stepAround (enclosing : List Bool) (isQuoted : Bool) (c : Char) :
    Option (List Role × Cursor) :=
  if isQuoted then stepDouble enclosing c else stepOutside enclosing false c

/-- Reads one character: the roles that are settled by it, and the place after it. -/
def step : Cursor → Char → Option (List Role × Cursor)
  | ⟨.outside atStart, enclosing⟩, c => stepOutside enclosing atStart c
  | ⟨.inSingle, enclosing⟩, c =>
    if c = '\'' then some ([.quote], ⟨.outside false, enclosing⟩)
    else some ([.quoted c], ⟨.inSingle, enclosing⟩)
  | ⟨.inDouble, enclosing⟩, c => stepDouble enclosing c
  | ⟨.inComment, enclosing⟩, c =>
    if c = '\n' then some ([.bare c], ⟨.outside true, enclosing⟩)
    else some ([.comment c], ⟨.inComment, enclosing⟩)
  | ⟨.escaped, enclosing⟩, c =>
    if escapable.contains c then none
    else (stepDouble enclosing c).map fun next => (.quoted '\\' :: next.1, next.2)
  | ⟨.afterDollar isQuoted, enclosing⟩, c =>
    if c = '\x7b' then some ([.expansion '$', .expansion c], ⟨.inBraces isQuoted, enclosing⟩)
    else if c = '(' then
      some ([.substitution '$', .substitution c], ⟨.outside true, isQuoted :: enclosing⟩)
    else if isIdentStart c then
      some ([.expansion '$', .expansion c], ⟨.inName isQuoted, enclosing⟩)
    else if startsParameter c || !isQuoted then none
    else (stepDouble enclosing c).map fun next => (.quoted '$' :: next.1, next.2)
  | ⟨.inBraces isQuoted, enclosing⟩, c =>
    if isIdentChar c || inExpansion.contains c then
      some ([.expansion c], ⟨.inBraces isQuoted, enclosing⟩)
    else if c = '\x7d' then some ([.expansion c], ⟨.around isQuoted, enclosing⟩)
    else none
  | ⟨.inName isQuoted, enclosing⟩, c =>
    if isIdentChar c then some ([.expansion c], ⟨.inName isQuoted, enclosing⟩)
    else stepAround enclosing isQuoted c

/-- Reads characters from a place on: their roles and the place after them. -/
def run : Cursor → List Char → Option (List Role × Cursor)
  | cursor, [] => some ([], cursor)
  | cursor, c :: rest => do
    let (here, next) ← step cursor c
    let (later, last) ← run next rest
    some (here ++ later, last)

/-- True of a place where a script may end: no quote and no substitution is open. -/
def Cursor.isClosed (cursor : Cursor) : Bool :=
  cursor.enclosing.isEmpty && match cursor.spot with
    | .outside _ | .inComment | .inName false => true
    | _ => false

/-- The roles of the characters of a whole script. -/
def roles? (script : String) : Option (List Role) := do
  let (roles, last) ← run .start script.toList
  if last.isClosed then some roles else none

/-- In a command substitution the quoting begins anew. -/
example :
    roles? "A=\"$(f '$B')\"" =
      some [.bare 'A', .bare '=', .quote, .substitution '$', .substitution '(', .bare 'f',
        .bare ' ', .quote, .quoted '$', .quoted 'B', .quote, .substitution ')', .quote] := by
  decide +kernel

/-! ## Reading piece by piece -/

/-- What a reading has read of a text that is not empty: the roles that the first character settles,
then those of the rest. -/
theorem run_cons_eq_some {cursor last : Cursor} {c : Char} {rest : List Char} {roles : List Role} :
    run cursor (c :: rest) = some (roles, last) ↔
      ∃ here next later, step cursor c = some (here, next) ∧ run next rest = some (later, last)
        ∧ roles = here ++ later := by
  rw [run, Option.bind_eq_bind, Option.bind_eq_some_iff]
  constructor
  · rintro ⟨⟨here, next⟩, hstep, h⟩
    obtain ⟨⟨later, last'⟩, hrest, h⟩ := Option.bind_eq_some_iff.mp h
    cases h
    exact ⟨here, next, later, hstep, hrest, rfl⟩
  · rintro ⟨here, next, later, hstep, hrest, rfl⟩
    exact ⟨(here, next), hstep, Option.bind_eq_some_iff.mpr ⟨(later, last), hrest, rfl⟩⟩

/-- What is read behind a piece begins where the piece ends. -/
theorem run_append_iff {cursor middle last : Cursor} {first second : List Char}
    {roles later : List Role} (h : run cursor first = some (roles, middle)) :
    run cursor (first ++ second) = some (roles ++ later, last) ↔
      run middle second = some (later, last) := by
  induction first generalizing cursor roles with
  | nil =>
    cases h
    rfl
  | cons c rest ih =>
    obtain ⟨here, next, more, hstep, hrest, rfl⟩ := run_cons_eq_some.mp h
    rw [← ih hrest, List.cons_append, run_cons_eq_some]
    constructor
    · rintro ⟨here', next', more', hstep', hrest', hroles⟩
      rw [hstep] at hstep'
      cases hstep'
      rw [List.append_assoc] at hroles
      rwa [List.append_cancel_left hroles]
    · intro hrun
      exact ⟨here, next, more ++ later, hstep, hrun, List.append_assoc _ _ _⟩

/-- Two readings one after the other, the direction of `run_append_iff` that puts readings
together. -/
theorem run_trans {cursor middle last : Cursor} {first second : List Char}
    {roles later : List Role} (h₁ : run cursor first = some (roles, middle))
    (h₂ : run middle second = some (later, last)) :
    run cursor (first ++ second) = some (roles ++ later, last) :=
  (run_append_iff h₁).mpr h₂

theorem run_singleton {cursor next : Cursor} {c : Char} {here : List Role}
    (h : step cursor c = some (here, next)) : run cursor [c] = some (here, next) :=
  run_cons_eq_some.mpr ⟨here, next, [], h, rfl, (List.append_nil here).symm⟩

theorem run_cons {cursor next last : Cursor} {c : Char} {rest : List Char}
    {here later : List Role} (hstep : step cursor c = some (here, next))
    (hrest : run next rest = some (later, last)) :
    run cursor (c :: rest) = some (here ++ later, last) :=
  run_trans (run_singleton hstep) hrest

/-- Characters that are read alike, one by one, without moving the reader. -/
theorem run_map {cursor : Cursor} {role : Char → Role} {cs : List Char}
    (h : ∀ c ∈ cs, step cursor c = some ([role c], cursor)) :
    run cursor cs = some (cs.map role, cursor) := by
  induction cs with
  | nil => rfl
  | cons c rest ih =>
    obtain ⟨hc, hrest⟩ := List.forall_mem_cons.mp h
    exact run_cons hc (ih hrest)

/-! ## Texts in double quotes

In double quotes a character may depend on the one behind it, so whether a text stands for itself
depends on what follows the text. -/

/-- True if a character is no text where `next` follows it in double quotes. -/
def isSpecialBefore (next c : Char) : Bool :=
  c = '"' || c = '`' || (c = '\\' && escapable.contains next)
    || (c = '$' && (next = '\x7b' || next = '(' || isIdentStart next || startsParameter next))

/-- True of a text that stands for itself in double quotes where `next` follows it. -/
def isLiteralBefore (next : Char) : List Char → Bool
  | [] => true
  | c :: rest => !isSpecialBefore (rest.headD next) c && isLiteralBefore next rest

/-- A character that settles no role only moves the reader. -/
theorem run_cons_of_step {cursor next last : Cursor} {c : Char} {rest : List Char}
    {roles : List Role} (h : step cursor c = some ([], next)) :
    run cursor (c :: rest) = some (roles, last) ↔ run next rest = some (roles, last) :=
  run_append_iff (run_singleton h)

/-- A character that leaves one role open, and the next one read as if it stood there alone. -/
theorem run_of_step_eq_map {cursor cursor' last : Cursor} {role : Role} {c : Char}
    {rest : List Char} {later : List Role}
    (h : step cursor c = (step cursor' c).map fun next => (role :: next.1, next.2)) :
    run cursor (c :: rest) = some (role :: later, last) ↔
      run cursor' (c :: rest) = some (later, last) := by
  rw [run_cons_eq_some, run_cons_eq_some, h]
  constructor
  · rintro ⟨here, next, more, hstep, hrest, hroles⟩
    obtain ⟨⟨here', next'⟩, hstep', heq⟩ := Option.map_eq_some_iff.mp hstep
    cases heq
    exact ⟨here', next', more, hstep', hrest, (List.cons.inj hroles).2⟩
  · rintro ⟨here, next, more, hstep, hrest, rfl⟩
    rw [hstep]
    exact ⟨role :: here, next, more, rfl, hrest, rfl⟩

section InDouble

variable {enclosing : List Bool} {next : Char} {rest : List Char} {later : List Role}
  {last : Cursor}

/-- Where a dollar sign is special, it is no text, whatever else it is. -/
theorem step_afterDollar_of_special (h : isSpecialBefore next '$' = true) {here : List Role}
    {cursor : Cursor} (hstep : step ⟨.afterDollar true, enclosing⟩ next = some (here, cursor)) :
    ∃ role more, here = role :: more ∧ role ≠ .quoted '$' := by
  rw [step] at hstep
  split at hstep
  · cases hstep
    exact ⟨_, _, rfl, by simp⟩
  · rename_i hbrace
    split at hstep
    · cases hstep
      exact ⟨_, _, rfl, by simp⟩
    · rename_i hparenthesis
      split at hstep
      · cases hstep
        exact ⟨_, _, rfl, by simp⟩
      · rename_i hname
        -- only the special parameters are left, where the reader gives up
        have hparameter : startsParameter next = true := by
          simpa [isSpecialBefore, hbrace, hparenthesis, hname] using h
        rw [hparameter] at hstep
        cases hstep

/-- Where a dollar sign is not special it is text, and the character behind it is read as if there
were no dollar sign. -/
theorem step_afterDollar_of_plain (h : isSpecialBefore next '$' = false) :
    step ⟨.afterDollar true, enclosing⟩ next =
      (step ⟨.inDouble, enclosing⟩ next).map fun next => (.quoted '$' :: next.1, next.2) := by
  have hplain : (next ≠ '\x7b' ∧ next ≠ '(') ∧ isIdentStart next = false
      ∧ startsParameter next = false := by
    simpa [isSpecialBefore, and_assoc] using h
  obtain ⟨⟨hbrace, hparenthesis⟩, hname, hparameter⟩ := hplain
  simp [step, hbrace, hparenthesis, hname, hparameter]

/-- A dollar sign in double quotes stands for itself exactly if it is not special before the next
character. -/
theorem run_inDouble_dollar_iff :
    run ⟨.inDouble, enclosing⟩ ('$' :: next :: rest) = some (.quoted '$' :: later, last) ↔
      isSpecialBefore next '$' = false ∧
        run ⟨.inDouble, enclosing⟩ (next :: rest) = some (later, last) := by
  have hdollar : step ⟨.inDouble, enclosing⟩ '$' = some ([], ⟨.afterDollar true, enclosing⟩) := rfl
  rw [run_cons_of_step hdollar]
  cases h : isSpecialBefore next '$' with
  | false =>
    rw [run_of_step_eq_map (step_afterDollar_of_plain h)]
    exact (and_iff_right rfl).symm
  | true =>
    refine iff_of_false (fun hrun => ?_) fun hrun => absurd hrun.1 (by decide)
    obtain ⟨here, cursor, more, hstep, -, hroles⟩ := run_cons_eq_some.mp hrun
    obtain ⟨role, others, rfl, hrole⟩ := step_afterDollar_of_special h hstep
    exact hrole (List.cons.inj hroles).1.symm

/-- A backslash in double quotes stands for itself exactly if the next character cannot be
escaped. -/
theorem run_inDouble_backslash_iff :
    run ⟨.inDouble, enclosing⟩ ('\\' :: next :: rest) = some (.quoted '\\' :: later, last) ↔
      isSpecialBefore next '\\' = false ∧
        run ⟨.inDouble, enclosing⟩ (next :: rest) = some (later, last) := by
  have hbackslash : step ⟨.inDouble, enclosing⟩ '\\' = some ([], ⟨.escaped, enclosing⟩) := rfl
  have hspecial : isSpecialBefore next '\\' = escapable.contains next := by
    simp [isSpecialBefore]
  rw [run_cons_of_step hbackslash, hspecial]
  cases h : escapable.contains next with
  | false =>
    have hstep : step ⟨.escaped, enclosing⟩ next =
        (step ⟨.inDouble, enclosing⟩ next).map fun next => (.quoted '\\' :: next.1, next.2) := by
      simp only [step, h, Bool.false_eq_true, if_false]
    rw [run_of_step_eq_map hstep]
    exact (and_iff_right rfl).symm
  | true =>
    have hstep : step ⟨.escaped, enclosing⟩ next = none := by
      simp only [step, h, if_true]
    refine iff_of_false (fun hrun => ?_) fun hrun => absurd hrun.1 (by decide)
    obtain ⟨here, cursor, more, hnone, -, -⟩ := run_cons_eq_some.mp hrun
    rw [hstep] at hnone
    cases hnone

/-- One character in double quotes, with another one behind it: it is read as itself exactly if it
is not special there, and then the other one is read as if it stood there alone. -/
theorem run_inDouble_cons_iff {c : Char} :
    run ⟨.inDouble, enclosing⟩ (c :: next :: rest) = some (.quoted c :: later, last) ↔
      isSpecialBefore next c = false ∧
        run ⟨.inDouble, enclosing⟩ (next :: rest) = some (later, last) := by
  by_cases hdollar : c = '$'
  · subst hdollar
    exact run_inDouble_dollar_iff
  by_cases hbackslash : c = '\\'
  · subst hbackslash
    exact run_inDouble_backslash_iff
  have hspecial : isSpecialBefore next c = (c = '"' || c = '`') := by
    simp [isSpecialBefore, hdollar, hbackslash]
  rw [hspecial]
  by_cases hquote : c = '"'
  · subst hquote
    refine iff_of_false (fun hrun => ?_) (by simp)
    obtain ⟨here, cursor, more, hstep, -, hroles⟩ := run_cons_eq_some.mp hrun
    cases hstep
    cases hroles
  by_cases hbackquote : c = '`'
  · subst hbackquote
    refine iff_of_false (fun hrun => ?_) (by simp)
    obtain ⟨here, cursor, more, hstep, -, -⟩ := run_cons_eq_some.mp hrun
    cases hstep
  have hstep : step ⟨.inDouble, enclosing⟩ c = some ([.quoted c], ⟨.inDouble, enclosing⟩) := by
    simp [step, stepDouble, hdollar, hbackslash, hquote, hbackquote]
  have hrest : run ⟨.inDouble, enclosing⟩ (c :: next :: rest) = some (.quoted c :: later, last) ↔
      run ⟨.inDouble, enclosing⟩ (next :: rest) = some (later, last) :=
    run_append_iff (run_singleton hstep)
  simpa [hquote, hbackquote] using hrest

/-- **Which texts stand for themselves in double quotes.** The character behind the text counts too,
as it decides about a dollar sign or a backslash at the end. Induction on the text, with
`run_inDouble_cons_iff` for each character: the one that follows is the next of the text or, at its
end, `next`. -/
theorem run_inDouble_iff {cs : List Char} :
    run ⟨.inDouble, enclosing⟩ (cs ++ next :: rest) = some (cs.map .quoted ++ later, last) ↔
      isLiteralBefore next cs = true ∧
        run ⟨.inDouble, enclosing⟩ (next :: rest) = some (later, last) := by
  induction cs with
  | nil => simp [isLiteralBefore]
  | cons c more ih =>
    have hnext : ∃ tail, more ++ next :: rest = more.headD next :: tail := by
      cases more with
      | nil => exact ⟨rest, rfl⟩
      | cons d more => exact ⟨_, rfl⟩
    obtain ⟨tail, htail⟩ := hnext
    rw [htail] at ih
    rw [List.cons_append, htail, List.map_cons, List.cons_append, run_inDouble_cons_iff, ih,
      isLiteralBefore, Bool.and_eq_true, Bool.not_eq_true', and_assoc]

end InDouble

/-- A dollar sign with a blank behind it is text, and a backslash in front of the closing mark is
not. -/
example : isLiteralBefore '"' "5$ each".toList = true ∧ isLiteralBefore '"' "c:\\".toList = false := by
  decide

/-- Without quotation marks, dollar signs, backslashes and backquotes a text stands for itself,
whatever follows it. -/
theorem isLiteralBefore_of_isPlainInDouble {cs : List Char}
    (h : ∀ c ∈ cs, isPlainInDouble c = true) (next : Char) : isLiteralBefore next cs = true := by
  induction cs with
  | nil => rfl
  | cons c rest ih =>
    obtain ⟨hc, hrest⟩ := List.forall_mem_cons.mp h
    have hspecial : isSpecialBefore (rest.headD next) c = false := by
      simp only [isPlainInDouble, List.contains_cons, Bool.not_eq_true', Bool.or_eq_false_iff,
        beq_eq_false_iff_ne, ne_eq] at hc
      simp [isSpecialBefore, hc]
    rw [isLiteralBefore, hspecial, ih hrest]
    rfl

/-- Before a full stop less is special than before a quotation mark. -/
theorem isLiteralBefore_fullStop {cs : List Char} (h : isLiteralBefore '"' cs = true) :
    isLiteralBefore '.' cs = true := by
  have hspecial : ∀ c, isSpecialBefore '"' c = false → isSpecialBefore '.' c = false := by
    have hescapable : '.' ∉ escapable := by decide
    have hdollar : isIdentStart '.' = false ∧ startsParameter '.' = false := by decide
    intro c hc
    simp only [isSpecialBefore, Bool.or_eq_false_iff] at hc
    simp [isSpecialBefore, hc.1.1, hescapable, hdollar]
  induction cs with
  | nil => rfl
  | cons c rest ih =>
    rw [isLiteralBefore, Bool.and_eq_true, Bool.not_eq_true'] at h ⊢
    refine ⟨?_, ih h.2⟩
    cases rest with
    | nil => exact hspecial c h.1
    | cons d more => exact h.1

/-! ## Quoted words -/

/-- The roles of a character inside of single quotes; a single quote is put in double quotes. -/
def charRoles (c : Char) : List Role :=
  if c = mark then [.quote, .quote, .quoted mark, .quote, .quote] else [.quoted c]

/-- The roles of the word for a text. -/
def wordRoles (s : String) : List Role :=
  if s.toList.isEmpty then [.quote, .quote]
  else if s.toList.all isSafe then s.toList.map .bare
  else .quote :: (s.toList.flatMap charRoles ++ [.quote])

/-- A safe character is read as itself outside of quotes, at every depth of substitutions, and no
word starts after it. -/
theorem step_of_isSafe {c : Char} (hc : isSafe c = true) (enclosing : List Bool)
    (atStart : Bool) :
    step ⟨.outside atStart, enclosing⟩ c = some ([.bare c], ⟨.outside false, enclosing⟩) := by
  have hne : ∀ d, isSafe d = false → c ≠ d := fun d hd => ne_of_isSafe hc hd
  cases enclosing <;>
    simp [step, stepOutside, isSeparator_of_isSafe hc, hne _ (show isSafe '\'' = false by decide),
      hne _ (show isSafe '"' = false by decide), hne _ (show isSafe '$' = false by decide),
      hne _ (show isSafe '\\' = false by decide), hne _ (show isSafe '`' = false by decide),
      hne _ (show isSafe '#' = false by decide), hne _ (show isSafe '(' = false by decide),
      hne _ (show isSafe ')' = false by decide)]

/-- The characters of a quoted text are read one by one inside of single quotes; a single quote
among them leaves the quotes and enters them again, so the reader is in them after each
character. -/
theorem run_flatMap_quoteChar (enclosing : List Bool) (cs : List Char) :
    run ⟨.inSingle, enclosing⟩ (cs.flatMap quoteChar) =
      some (cs.flatMap charRoles, ⟨.inSingle, enclosing⟩) := by
  induction cs with
  | nil => rfl
  | cons c rest ih =>
    have hc : run ⟨.inSingle, enclosing⟩ (quoteChar c) =
        some (charRoles c, ⟨.inSingle, enclosing⟩) := by
      rw [quoteChar, charRoles]
      split
      · rfl
      · rename_i hmark
        refine run_singleton ?_
        simp only [step]
        exact if_neg hmark
    exact run_trans hc ih

/-- The word for a text is read as such wherever it stands outside of quotes. -/
theorem run_quoteChars (s : String) (enclosing : List Bool) (atStart : Bool) :
    run ⟨.outside atStart, enclosing⟩ (quoteChars s.toList) =
      some (wordRoles s, ⟨.outside false, enclosing⟩) := by
  have hopen : step ⟨.outside atStart, enclosing⟩ mark = some ([.quote], ⟨.inSingle, enclosing⟩) :=
    rfl
  have hclose : step ⟨.inSingle, enclosing⟩ mark =
      some ([.quote], ⟨.outside false, enclosing⟩) := rfl
  rw [quoteChars, wordRoles]
  split
  · exact run_cons hopen (run_singleton hclose)
  · rename_i hempty
    split
    · rename_i hsafe
      have hsafe' := List.all_eq_true.mp hsafe
      -- after the first character the reader stays where it is
      obtain ⟨c, rest, hcs⟩ := List.exists_cons_of_ne_nil (mt List.isEmpty_iff.mpr hempty)
      rw [hcs] at hsafe' ⊢
      obtain ⟨hc, hrest⟩ := List.forall_mem_cons.mp hsafe'
      exact run_cons (step_of_isSafe hc enclosing atStart)
        (run_map fun d hd => step_of_isSafe (hrest d hd) enclosing false)
    · exact run_cons hopen (run_trans (run_flatMap_quoteChar enclosing _) (run_singleton hclose))

namespace Role

/-- True of a role that is no more than text, and does not end the word. -/
def isText : Role → Bool
  | bare c => !(isSeparator c || patterns.contains c)
  | quoted _ | quote => true
  | expansion _ | substitution _ | comment _ => false

/-- The characters that a role stands for in a word. -/
def chars : Role → List Char
  | bare c | quoted c => [c]
  | quote | expansion _ | substitution _ | comment _ => []

end Role

/-- The text that a word stands for, if it is one word of nothing but text. -/
def literal? (word : List Role) : Option String :=
  if word.all Role.isText then some (String.ofList (word.flatMap Role.chars)) else none

theorem isText_bare_of_isSafe {c : Char} (hc : isSafe c = true) :
    (Role.bare c).isText = true := by
  have hpattern : patterns.contains c = false := by
    rw [Bool.eq_false_iff]
    intro h
    have hall := @isSafe_eq_false_of_all patterns (by decide)
    exact ne_of_isSafe hc (hall c (List.elem_iff.mp h)) rfl
  rw [Role.isText, isSeparator_of_isSafe hc, hpattern]
  rfl

/-- What is written for a character of a quoted text is text and quotation marks only. -/
theorem all_isText_charRoles (c : Char) : (charRoles c).all Role.isText = true := by
  rw [charRoles]
  split <;> rfl

theorem chars_charRoles (c : Char) : (charRoles c).flatMap Role.chars = [c] := by
  rw [charRoles]
  split
  · rename_i hmark
    rw [hmark]
    rfl
  · rfl

/-- The word for a text stands for the text. -/
theorem literal?_wordRoles (s : String) : literal? (wordRoles s) = some s := by
  have hword : (wordRoles s).all Role.isText = true
      ∧ (wordRoles s).flatMap Role.chars = s.toList := by
    rw [wordRoles]
    split
    · rename_i hempty
      rw [List.isEmpty_iff.mp hempty]
      exact ⟨rfl, rfl⟩
    · split
      · rename_i hsafe
        rw [List.all_map, List.flatMap_map, List.all_eq_true]
        exact ⟨fun c hc => isText_bare_of_isSafe (List.all_eq_true.mp hsafe c hc),
          List.flatMap_singleton' _⟩
      · -- the marks around the characters stand for nothing
        have hchars : (s.toList.flatMap charRoles).flatMap Role.chars = s.toList := by
          simp only [List.flatMap_assoc, chars_charRoles, List.flatMap_singleton']
        refine ⟨?_, ?_⟩
        · rw [List.all_cons, List.all_append, List.all_flatMap]
          simp [Role.isText, all_isText_charRoles]
        · rw [List.flatMap_cons, List.flatMap_append, hchars]
          exact List.append_nil _
  rw [literal?, if_pos hword.1, hword.2, String.ofList_toList]

end ShellFlow.Script

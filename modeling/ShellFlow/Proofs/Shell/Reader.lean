import ShellFlow.Identifier

/-!
# Reading shell text

A reader of shell text, independent of the functions that write it. Theorems about generated
scripts say what this reader finds in them.

Reading goes in two layers.

* **Marks.** `run` walks the characters by the quoting rules and says of each what it is: outside
  of quotes, inside of them, a quotation mark, part of an expansion, or part of a comment. Single
  quotes make everything literal; in double quotes an expansion stays one. A `#` where a word may
  start begins a comment.
* **Commands.** `commands?` cuts the marks at newlines outside of quotes into commands and these at
  blanks into words. A command that is one word with an identifier and an equals sign in front is an
  assignment.

The reader is partial on purpose: it reads expansions of plain variables and simple commands, and
gives up (`none`) at an operator, a pattern, a backslash or a command substitution, so that whatever
it does read has none of them.

## Main statements

* `run_append`: reading goes from left to right, so texts can be read piece by piece.
* `run_trans`: two readings, one after the other.
-/

namespace ShellFlow.Shell

/-! ## Marks -/

/-- What a character of a script is for the shell that reads it. -/
inductive Mark where
  /-- A character outside of quotes. -/
  | bare (c : Char)
  /-- A character inside of quotes, which stands for itself. -/
  | quoted (c : Char)
  /-- A quotation mark that opens or closes. -/
  | quote
  /-- The expansion of a variable, inside or outside of double quotes. -/
  | expansion (isQuoted : Bool) (name : String)
  deriving DecidableEq, Repr

/-- Where a reader stands between two characters. -/
inductive Place where
  /-- Outside of quotes; `atStart` says whether a word may start here. -/
  | outside (atStart : Bool)
  | inSingle
  | inDouble
  | inComment
  /-- After a dollar sign. -/
  | afterDollar (isQuoted : Bool)
  /-- In a name in braces, with the characters of it that were read. -/
  | inBraces (isQuoted : Bool) (name : List Char)
  /-- In a name without braces, with the characters of it that were read. -/
  | inName (isQuoted : Bool) (name : List Char)
  deriving DecidableEq, Repr

/-- The blanks between words. -/
def blanks : List Char := [' ', '\t']

/-- The characters of control operators and redirections. -/
def operators : List Char := ['|', '&', ';', '<', '>', '(', ')']

/-- The characters outside of quotes that a shell replaces: patterns, home directories, brace
lists and the history. -/
def patterns : List Char := ['*', '?', '[', ']', '~', '\x7b', '\x7d', '!']

/-- True of a character after which a word may start. -/
def isSeparator (c : Char) : Bool := c = '\n' || blanks.contains c || operators.contains c

def Place.around (isQuoted : Bool) : Place := if isQuoted then .inDouble else .outside false

def stepOutside (atStart : Bool) (c : Char) : Option (List Mark × Place) :=
  if c = '\'' then some ([.quote], .inSingle)
  else if c = '"' then some ([.quote], .inDouble)
  else if c = '$' then some ([], .afterDollar false)
  else if c = '\\' || c = '`' then none
  else if c = '#' && atStart then some ([], .inComment)
  else some ([.bare c], .outside (isSeparator c))

def stepDouble (c : Char) : Option (List Mark × Place) :=
  if c = '"' then some ([.quote], .outside false)
  else if c = '$' then some ([], .afterDollar true)
  else if c = '\\' || c = '`' then none
  else some ([.quoted c], .inDouble)

def stepAround (isQuoted : Bool) (c : Char) : Option (List Mark × Place) :=
  if isQuoted then stepDouble c else stepOutside false c

/-- Reads one character: the marks that it completes and the place after it. -/
def step : Place → Char → Option (List Mark × Place)
  | .outside atStart, c => stepOutside atStart c
  | .inSingle, c =>
    if c = '\'' then some ([.quote], .outside false) else some ([.quoted c], .inSingle)
  | .inDouble, c => stepDouble c
  | .inComment, c =>
    if c = '\n' then some ([.bare '\n'], .outside true) else some ([], .inComment)
  | .afterDollar isQuoted, c =>
    if c = '\x7b' then some ([], .inBraces isQuoted [])
    else if isIdentStart c then some ([], .inName isQuoted [c])
    else none
  | .inBraces isQuoted name, c =>
    if isIdentChar c then some ([], .inBraces isQuoted (name ++ [c]))
    else if c = '\x7d' && isIdentifierChars name then
      some ([.expansion isQuoted (String.ofList name)], .around isQuoted)
    else none
  | .inName isQuoted name, c =>
    if isIdentChar c then some ([], .inName isQuoted (name ++ [c]))
    else (stepAround isQuoted c).map fun next =>
      (.expansion isQuoted (String.ofList name) :: next.1, next.2)

/-- Reads characters from a place on: their marks and the place after them. -/
def run : Place → List Char → Option (List Mark × Place)
  | place, [] => some ([], place)
  | place, c :: rest => do
    let (here, next) ← step place c
    let (later, last) ← run next rest
    some (here ++ later, last)

/-- What is left to be marked where a text ends; quotes and braces must be closed. -/
def Place.finish : Place → Option (List Mark)
  | .outside _ => some []
  | .inComment => some []
  | .inName false name => some [.expansion false (String.ofList name)]
  | _ => none

def marks? (script : String) : Option (List Mark) := do
  let (marks, last) ← run (.outside true) script.toList
  some (marks ++ (← last.finish))

/-! ## Words and commands -/

/-- The marks of one word. -/
abbrev Word := List Mark

namespace Mark

def isBlank : Mark → Bool
  | .bare c => blanks.contains c
  | _ => false

/-- True of an operator or a pattern, which make more of a text than simple commands. -/
def isActive : Mark → Bool
  | .bare c => operators.contains c || patterns.contains c
  | _ => false

/-- The characters that a mark stands for in an environment. -/
def chars (env : String → String) : Mark → List Char
  | .bare c => [c]
  | .quoted c => [c]
  | .quote => []
  | .expansion _ name => (env name).toList

def expanded? : Mark → Option String
  | .expansion _ name => some name
  | _ => none

end Mark

namespace Word

/-- The characters that a word stands for in an environment. -/
def chars (env : String → String) (word : Word) : List Char := word.flatMap (Mark.chars env)

/-- The text that a word stands for in an environment. -/
def text (env : String → String) (word : Word) : String := String.ofList (word.chars env)

/-- The variables that a word expands, from left to right. -/
def expanded (word : Word) : List String := word.filterMap Mark.expanded?

section Marks

variable (env : String → String) (word other : Word)

@[simp]
theorem chars_nil : chars env [] = [] := rfl

@[simp]
theorem chars_cons (m : Mark) : chars env (m :: word) = m.chars env ++ chars env word := rfl

@[simp]
theorem chars_append : chars env (word ++ other) = chars env word ++ chars env other :=
  List.flatMap_append

/-- A run of unquoted characters stands for itself, whatever the environment. -/
@[simp]
theorem chars_map_bare (cs : List Char) : chars env (cs.map .bare) = cs := by
  unfold chars
  rw [List.flatMap_map]
  exact List.flatMap_singleton' cs

/-- A run of quoted characters stands for itself, whatever the environment. -/
@[simp]
theorem chars_map_quoted (cs : List Char) : chars env (cs.map .quoted) = cs := by
  unfold chars
  rw [List.flatMap_map]
  exact List.flatMap_singleton' cs

@[simp]
theorem expanded_nil : expanded [] = [] := rfl

@[simp]
theorem expanded_cons (m : Mark) :
    expanded (m :: word) = m.expanded?.toList ++ expanded word := by
  unfold expanded
  cases h : m.expanded? <;> simp [h]

@[simp]
theorem expanded_append : expanded (word ++ other) = expanded word ++ expanded other :=
  List.filterMap_append

@[simp]
theorem expanded_map_bare (cs : List Char) : expanded (cs.map .bare) = [] := by
  simp [expanded, Mark.expanded?]

@[simp]
theorem expanded_map_quoted (cs : List Char) : expanded (cs.map .quoted) = [] := by
  simp [expanded, Mark.expanded?]

end Marks

end Word

/-- Takes the marks of a name and an equals sign off the front of a word; `name` is what was taken
already. -/
def takeTarget (name : List Char) : Word → Option (String × Word)
  | .bare c :: rest =>
    if c = '=' then if isIdentifierChars name then some (String.ofList name, rest) else none
    else takeTarget (name ++ [c]) rest
  | _ => none

inductive Command where
  /-- A variable gets the value of a word, which is not split. -/
  | assignment (var : String) (value : Word)
  /-- Any other command, given by its words. -/
  | other (words : List Word)
  deriving DecidableEq, Repr

def Command.ofWords : List Word → Command
  | [word] =>
    match takeTarget [] word with
    | some (var, value) => .assignment var value
    | none => .other [word]
  | words => .other words

def wordsOf (line : List Mark) : List Word :=
  (line.splitOnP Mark.isBlank).filter fun word => !word.isEmpty

/-- The commands of the marks of a script, one for each line that has a word. -/
def commandsOf (marks : List Mark) : List Command :=
  (((marks.splitOn (.bare '\n')).map wordsOf).filter fun words => !words.isEmpty).map
    Command.ofWords

/-- The commands of a script that has simple commands only. -/
def commands? (script : String) : Option (List Command) := do
  let marks ← marks? script
  if marks.any Mark.isActive then none else some (commandsOf marks)

/-! ## Reading piece by piece -/

/-- **Reading goes from left to right.** What is read of the second text depends on the first only
through the place where the first one ends. Induction on the first text, from every place, as each
character moves the place. -/
theorem run_append (place : Place) (first second : List Char) :
    run place (first ++ second) = (run place first).bind fun r =>
      (run r.2 second).map fun s => (r.1 ++ s.1, s.2) := by
  induction first generalizing place with
  | nil => cases hsecond : run place second <;> simp [run, hsecond]
  | cons c rest ih =>
    rw [List.cons_append, run, run]
    cases step place c with
    | none => rfl
    | some next =>
      simp only [bind, Option.bind_some, ih]
      cases run next.2 rest with
      | none => rfl
      | some last => cases hlast : run last.2 second <;> simp [hlast]

/-- Two readings one after the other: `run_append` where both texts are readable, which is how the
text of an assignment is put together out of its name, its quotes and its leaves. -/
theorem run_trans {start middle last : Place} {first second : List Char}
    {marks marks' : List Mark} (h₁ : run start first = some (marks, middle))
    (h₂ : run middle second = some (marks', last)) :
    run start (first ++ second) = some (marks ++ marks', last) := by
  rw [run_append, h₁]
  simp [h₂]

/-- One step and the reading of the rest, the form in which a proof walks through the characters of
a fixed text. -/
theorem run_cons {start next last : Place} {c : Char} {rest : List Char} {here later : List Mark}
    (hstep : step start c = some (here, next)) (hrest : run next rest = some (later, last)) :
    run start (c :: rest) = some (here ++ later, last) := by
  simp [run, hstep, hrest]

/-- A script is read by its assignments, its comments and its other commands. -/
example :
    commands? "# setup\nA=x' y'\"$\x7bB\x7d\"\necho $A" =
      some [.assignment "A"
          [.bare 'x', .quote, .quoted ' ', .quoted 'y', .quote, .quote, .expansion true "B",
            .quote],
        .other [[.bare 'e', .bare 'c', .bare 'h', .bare 'o'], [.expansion false "A"]]] := by
  decide +kernel

end ShellFlow.Shell

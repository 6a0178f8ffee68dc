import ShellFlow.InputType.Make
import ShellFlow.Proofs.Action.Compilation
import ShellFlow.Proofs.Shell.Assignment

/-!
# The setup section of a step

The section of a generated script that assigns the inputs, read by the shell reader. It has one
assignment for each declared input, in the order of the declaration, and no other command; a literal
never opens a quote, starts an expansion or ends a line, whatever text it holds.

* **`readsLine_assignment`** — one assignment is one line and one word.
* **`rows_of_setup`** — the lines of the section, by induction on the inputs.
* **`commands?_setup`** — the section as commands.
* **`compile_setup_assigns`** — the section of the script of a step.
-/

namespace ShellFlow.Action

open Shell

/-- The word of an assignment: the variable, an equals sign, and the word of the value. -/
def targetWord (var : String) (value : Word) : Word := var.toList.map .bare ++ .bare '=' :: value

/-- The variable of an input is an identifier whenever the input is one, so the shell reads its
assignment as one. -/
theorem isIdentifier_inputVar {input : String} (h : isIdentifier input = true) :
    isIdentifier (inputVar input) = true :=
  isIdentifier_append (s := "INPUT_") (by decide) (isIdentChar_of_mem_identifier h)

/-- The assignment of a value is one line, whose word stands for the text of the value. -/
theorem readsLine_assignment {input line : String} {v : Value} (hinput : isIdentifier input = true)
    (hname : v.HasVariableNames) (h : assignment (inputVar input) v = .ok line) :
    ∃ word, ReadsLine line.toList (targetWord (inputVar input) word)
      ∧ (∀ env, valueText env v = .ok (word.text env)) ∧ word.expanded = variablesOf v :=
  exists_readsLine_assignment (isIdentifier_inputVar hinput) hname h

/-- The comment in front of the assignment of a reference is a line without a word. -/
theorem readsLine_directive : ReadsLine "# shellcheck disable=SC2154".toList [] :=
  ReadsLine.comment (by decide)

/-- The lines of one input, each with its word. Only the assignment has one; a reference has a
comment in front of its assignment. -/
theorem rows_of_setupInput {input : String} {v : Value} {lines : List String}
    (hinput : isIdentifier input = true) (hname : v.HasVariableNames)
    (h : setupInput input v = .ok lines) :
    ∃ (rows : List (List Char × Word)) (word : Word),
      lines.map String.toList = rows.map Prod.fst
      ∧ (∀ row ∈ rows, ReadsLine row.1 row.2)
      ∧ (rows.map Prod.snd).filter (fun word => !word.isEmpty) =
          [targetWord (inputVar input) word]
      ∧ (∀ env, valueText env v = .ok (word.text env)) ∧ word.expanded = variablesOf v := by
  obtain ⟨line, hline, h⟩ := Success.bind_eq_ok.mp h
  injection h with h
  subst lines
  obtain ⟨word, hreads, htext, hvars⟩ := readsLine_assignment hinput hname hline
  let row : List Char × Word := (line.toList, targetWord (inputVar input) word)
  have hnonempty : row.2.isEmpty = false := by
    simp [row, targetWord]
  cases v.isReference with
  | true =>
    refine ⟨[("# shellcheck disable=SC2154".toList, []), row], word, rfl, ?_, ?_, htext, hvars⟩
    · simpa using ⟨readsLine_directive, hreads⟩
    · simp [hnonempty, row]
  | false =>
    refine ⟨[row], word, rfl, by simpa using hreads, ?_, htext, hvars⟩
    simp [hnonempty, row]

/-- The lines of the section, each with its word, and the words of the values in order. Induction on
the inputs. -/
theorem rows_of_setup {entries : List (String × Value)} {lines : List String}
    (hinput : ∀ e ∈ entries, isIdentifier e.1 = true) (hname : ∀ e ∈ entries, e.2.HasVariableNames)
    (h : setup entries = .ok lines) :
    ∃ (rows : List (List Char × Word)) (words : List Word),
      lines.map String.toList = rows.map Prod.fst
      ∧ (∀ row ∈ rows, ReadsLine row.1 row.2)
      ∧ (rows.map Prod.snd).filter (fun word => !word.isEmpty) =
          List.zipWith targetWord (entries.map fun e => inputVar e.1) words
      ∧ words.length = entries.length
      ∧ (∀ env, (entries.map Prod.snd).mapM (valueText env) = .ok (words.map (Word.text env)))
      ∧ words.map Word.expanded = entries.map fun e => variablesOf e.2 := by
  induction entries generalizing lines with
  | nil =>
    cases h
    exact ⟨[], [], rfl, by simp, rfl, rfl, fun env => rfl, rfl⟩
  | cons e rest ih =>
    obtain ⟨input, v⟩ := e
    obtain ⟨here, hhere, h⟩ := Success.bind_eq_ok.mp h
    obtain ⟨later, hlater, h⟩ := Success.bind_eq_ok.mp h
    injection h with h
    subst lines
    obtain ⟨first, word, hfirst, hreads, hword, hwordText, hwordVars⟩ := rows_of_setupInput
      (hinput (input, v) List.mem_cons_self) (hname (input, v) List.mem_cons_self) hhere
    obtain ⟨rows, words, hlines, hrows, hwords, hlength, htext, hvars⟩ :=
      ih (fun e he => hinput e (List.mem_cons_of_mem _ he))
        (fun e he => hname e (List.mem_cons_of_mem _ he)) hlater
    -- the rows of the first input, then those of the others
    refine ⟨first ++ rows, word :: words, ?_, ?_, ?_, ?_, ?_, ?_⟩
    · rw [List.map_append, List.map_append, hfirst, hlines]
    · exact List.forall_mem_append.mpr ⟨hreads, hrows⟩
    · rw [List.map_append, List.filter_append, hword, hwords]
      rfl
    · rw [List.length_cons, List.length_cons, hlength]
    · intro env
      exact Success.mapM_cons_eq_ok.mpr ⟨_, _, hwordText env, htext env, rfl⟩
    · rw [List.map_cons, List.map_cons, hwordVars, hvars]

/-- A word with a variable in front is the assignment of that variable. -/
theorem map_ofWords_targetWord {vars : List String} (h : ∀ var ∈ vars, isIdentifier var = true)
    (words : List Word) :
    (List.zipWith targetWord vars words).map (fun word => Command.ofWords [word]) =
      List.zipWith Command.assignment vars words := by
  induction vars generalizing words with
  | nil => rfl
  | cons var rest ih =>
    cases words with
    | nil => rfl
    | cons word words =>
      have hvar := ofWords_assignment (h var List.mem_cons_self) word
      have hrest := ih (fun v hv => h v (List.mem_cons_of_mem _ hv)) words
      simp only [List.zipWith_cons_cons, List.map_cons, hrest]
      exact congrArg (· :: _) hvar

/-- The section has one assignment for each input, in order, and no other command. -/
theorem commands?_setup {entries : List (String × Value)} {lines : List String}
    (hinput : ∀ e ∈ entries, isIdentifier e.1 = true) (hname : ∀ e ∈ entries, e.2.HasVariableNames)
    (h : setup entries = .ok lines) :
    ∃ words : List Word,
      commands? (Text.joinLines lines) =
        some (List.zipWith Command.assignment (entries.map fun e => inputVar e.1) words)
      ∧ words.length = entries.length
      ∧ (∀ env, (entries.map Prod.snd).mapM (valueText env) = .ok (words.map (Word.text env)))
      ∧ words.map Word.expanded = entries.map fun e => variablesOf e.2 := by
  obtain ⟨rows, words, hlines, hrows, hwords, hlength, htext, hvars⟩ :=
    rows_of_setup hinput hname h
  refine ⟨words, ?_, hlength, htext, hvars⟩
  have hscript : (Text.joinLines lines).toList = ['\n'].intercalate (rows.map Prod.fst) := by
    rw [Text.joinLines, String.toList_intercalate, hlines]
    rfl
  have hidents : ∀ var ∈ entries.map fun e => inputVar e.1, isIdentifier var = true := by
    intro var hvar
    obtain ⟨e, he, rfl⟩ := List.mem_map.mp hvar
    exact isIdentifier_inputVar (hinput e he)
  rw [commands?_of_lines hscript hrows, hwords, map_ofWords_targetWord hidents]

/-- The setup section of the script of a step, read by a shell. The lines stand in the script between
its header and the checks of the inputs, and the words are those that they assign. -/
structure SetupSection (action : Action) (step : Step) (info : ActionInfo) (lines : List String)
    (words : List Word) : Prop where
  remembered : step.action = some info
  inputs : info.inputValues.keys = action.inputs.keys
  placed : ∃ run exportCode, step.run = .text (script
    (preamble step.name action.description lines (checks action.inputs)) run exportCode)
  made : setup info.inputValues.entries = .ok lines
  /-- One assignment for each declared input, in the order of the declaration, and nothing else. -/
  commands : commands? (Text.joinLines lines) =
    some (List.zipWith Command.assignment (action.inputs.keys.map inputVar) words)
  length : words.length = action.inputs.keys.length
  /-- In every environment the words stand for the texts of the input values. -/
  texts : ∀ env, info.inputValues.values.mapM (valueText env) = .ok (words.map (Word.text env))
  /-- Only the variables of references are expanded. -/
  expanded : words.map Word.expanded = info.inputValues.values.map variablesOf

/-- **Every step of an action has a setup section**: one assignment for each declared input, in the
order of the declaration, and no other command. In every environment the assigned words stand for
the texts of the input values, and they expand the variables of the references in them and nothing
else. The names are required to be identifiers, since the shell takes no other text in front of an
equals sign for a variable. The words come from `commands?_setup`, by induction on the inputs; the
rest is what a compilation remembers. -/
theorem compile_setup_assigns {action : Action} {invocation : Invocation} {carry : CarryChannel}
    {step : Step} (h : action.compile invocation carry = .ok step)
    (hinput : ∀ input ∈ action.inputs.keys, isIdentifier input = true)
    (hname : ∀ info, step.action = some info →
      ∀ v ∈ info.inputValues.values, v.HasVariableNames) :
    ∃ info lines words, SetupSection action step info lines words := by
  obtain ⟨c, rfl⟩ := compile_eq_ok_iff.mp h
  -- the resolved inputs are the declared ones
  have hentries : ∀ e ∈ c.resolved.entries, isIdentifier e.1 = true := by
    intro e he
    refine hinput e.1 ?_
    rw [← c.keys_resolved]
    exact List.mem_map_of_mem he
  have hvalues : ∀ e ∈ c.resolved.entries, e.2.HasVariableNames := fun e he =>
    hname c.info rfl e.2 (List.mem_map_of_mem he)
  obtain ⟨words, hcommands, hlength, htext, hvars⟩ :=
    commands?_setup hentries hvalues c.setup_eq
  have hkeys : (c.resolved.entries.map fun e => inputVar e.1) =
      action.inputs.keys.map inputVar := by
    rw [← c.keys_resolved, OrderedMap.keys, List.map_map]
    rfl
  rw [hkeys] at hcommands
  refine ⟨c.info, c.setupLines, words, ?_⟩
  exact {
    remembered := rfl
    inputs := c.keys_resolved
    placed := ⟨c.run, c.exportCode, rfl⟩
    made := c.setup_eq
    commands := hcommands
    length := by rw [hlength, ← c.keys_resolved, OrderedMap.keys, List.length_map]
    texts := htext
    expanded := by simp [hvars, Compilation.info, OrderedMap.values] }

/-- An action with a text, a list and a reference for its inputs. -/
def publish : Action where
  name := .text "publish"
  run := .text "echo ok"
  inputs := OrderedMap.ofList
    [("note", InputType.string), ("targets", InputType.array InputType.string),
      ("tag", InputType.string)]
  outputs := []
  packages := []
  description := .text ""

/-- A call with quotes and a newline in a text, and references in a nested list and alone. -/
def publishCall : Invocation :=
  OrderedMap.ofList
    [("tag", .reference (.stepOutput "build-app" "tag")),
      ("note", .text "it's $(here)\n# and there"),
      ("targets", .list [.text "a b", .tuple [.null, .reference (.envVar "HOST")]])]

/-- The section of a call with quotes, a comment mark and a newline in a text, and with references
in a nested list. -/
theorem compile_publish_setup :
    ∃ step, publish.compile publishCall = .ok step
      ∧ ∃ info lines words, SetupSection publish step info lines words := by
  refine ⟨_, rfl, @compile_setup_assigns publish publishCall .standard _ rfl (by decide +kernel) ?_⟩
  intro info hinfo v hv name hname
  injection hinfo with hinfo
  subst hinfo
  simp only [OrderedMap.values, List.map_cons, List.map_nil, List.mem_cons, List.not_mem_nil,
    or_false] at hv
  rcases hv with rfl | rfl | rfl
  · simp [Value.leaves] at hname
  · simp [Value.leaves, Value.leavesOfItems] at hname
    subst name
    decide
  · simp [Value.leaves] at hname

end ShellFlow.Action

import Mathlib.Data.List.Basic
import ShellFlow.Proofs.Action.Setup
import ShellFlow.Proofs.Shell.Pieces
import ShellFlow.Proofs.Validation.Producers

/-!
# Expansions that were checked

Two functions look for references in the value of an input. The reference check asks for the steps
that it names, item by item. The code that writes the assignment flattens a list, and only if it has
a reference in it. An expansion that the one writes and the other does not see would go unchecked
into a script. There is none: the outputs of steps that are expanded in an assignment are those that
the check goes through, in the same order and as often.

* **`Validation.collectOutputs`** — the outputs of steps in a value, collected item by item.
* **`outputs_assignedPieces`** — the outputs that an assignment expands.
* **`Action.setupRows`**, **`exists_setupRows_of_compile`** — the setup section of a script, in
  pieces.
* **`emitted_outputs`** — what is expanded is what is checked, for every value; in a workflow that
  passes the reference check, every output of a step that is expanded in the setup section of a step
  is one of a step of the same job.
-/

namespace ShellFlow

/-! ## One value -/

namespace Validation

mutual

/-- The outputs of steps that a value refers to: one if it is such a reference, those of the items
one after the other if it is a list or a tuple. -/
def collectOutputs : Value → List (String × String)
  | .reference (.stepOutput step output) => [(step, output)]
  | .list items => collectOutputsOfItems items
  | .tuple items => collectOutputsOfItems items
  | _ => []
termination_by structural v => v

def collectOutputsOfItems : List Value → List (String × String)
  | [] => []
  | item :: rest => collectOutputs item ++ collectOutputsOfItems rest
termination_by structural items => items

end

/-- The outputs in the items of a list are those of the items, one after the other. -/
theorem collectOutputsOfItems_eq_flatMap (items : List Value) :
    collectOutputsOfItems items = items.flatMap collectOutputs := by
  induction items with
  | nil => rfl
  | cons item rest ih => rw [collectOutputsOfItems, ih, List.flatMap_cons]

/-- Going item by item finds what going through the leaves does. -/
theorem collectOutputs_eq_stepOutputs (v : Value) : collectOutputs v = stepOutputs v := by
  induction v using Value.sequenceInduction with
  | list items ih | tuple items ih =>
    rw [collectOutputs, collectOutputsOfItems_eq_flatMap, List.flatMap_congr ih]
    simp only [stepOutputs, Value.leaves_list, Value.leaves_tuple, List.filterMap_flatMap]
    rfl
  | leaf v h =>
    rw [stepOutputs, Value.leaves_of_not_isSequence h]
    cases v with
    | list items | tuple items => cases h
    | reference r => cases r <;> rfl
    | null | bool _ | int _ | float _ | text _ | mapping _ | path _ | bytes _ | object _ _
    | struct _ _ _ | noDefault => rfl

/-- The check of references collects the steps of the very outputs that are collected here. -/
theorem referredSteps_eq_collected (v : Value) :
    referredSteps v = (collectOutputs v).map Prod.fst := by
  rw [referredSteps_eq_map, collectOutputs_eq_stepOutputs]

end Validation

namespace Shell

/-- The output of a step to which a reference refers. -/
def outputOf? : Reference → Option (String × String)
  | .stepOutput step output => some (step, output)
  | _ => none

/-- The outputs of steps that some pieces expand. -/
def Piece.outputs (pieces : List Piece) : List (String × String) :=
  (pieces.filterMap Piece.reference?).filterMap outputOf?

@[simp]
theorem Piece.outputs_append (pieces more : List Piece) :
    outputs (pieces ++ more) = outputs pieces ++ outputs more := by
  simp [outputs]

@[simp]
theorem Piece.outputs_literal_cons (s : String) (pieces : List Piece) :
    outputs (.literal s :: pieces) = outputs pieces := rfl

/-- **An assignment expands the outputs that its value mentions**, in their order and with
repetitions. -/
theorem outputs_assignedPieces {v : Value} {pieces : List Piece}
    (h : assignedPieces v = .ok pieces) : Piece.outputs pieces = Validation.collectOutputs v := by
  rw [Piece.outputs, references_assignedPieces h, Validation.collectOutputs_eq_stepOutputs]
  unfold Value.references stepOutputs
  rw [List.filterMap_filterMap]
  congr 1
  funext leaf
  cases leaf with
  | reference r => cases r <;> rfl
  | _ => rfl

end Shell

/-! ## The setup section -/

namespace Action

open Shell

/-- The lines that assign one input, in pieces. -/
def setupInputRows (input : String) (value : Value) : Except Failure (List (List Piece)) := do
  let pieces ← assignedPieces value
  let row := .literal (inputVar input ++ "=") :: pieces
  .ok (if value.isReference then [[.literal "# shellcheck disable=SC2154"], row] else [row])

/-- The lines that assign the inputs, in pieces. -/
def setupRows : List (String × Value) → Except Failure (List (List Piece))
  | [] => .ok []
  | (input, value) :: rest => do
    let rows ← setupInputRows input value
    .ok (rows ++ (← setupRows rest))

/-- The lines of one input are what its rows of pieces assemble to. -/
theorem setupInput_eq_rows (input : String) (value : Value) :
    setupInput input value = (setupInputRows input value).map (List.map Piece.assemble) := by
  unfold setupInput setupInputRows assignment
  rw [assignedWord_eq_assemble]
  cases assignedPieces value with
  | error e => rfl
  | ok pieces =>
    cases value.isReference <;> simp [Except.map, bind, Except.bind, Piece.text]

theorem setup_eq_rows (entries : List (String × Value)) :
    setup entries = (setupRows entries).map (List.map Piece.assemble) := by
  induction entries with
  | nil => rfl
  | cons e rest ih =>
    obtain ⟨input, value⟩ := e
    rw [setup, setupRows, ih, setupInput_eq_rows]
    cases setupInputRows input value with
    | error e => rfl
    | ok rows =>
      cases setupRows rest with
      | error e => rfl
      | ok more => simp [Except.map, bind, Except.bind]

/-- The rows of an input expand the outputs that its value mentions; the line that exports the
variable expands nothing. -/
theorem outputs_setupInputRows {input : String} {value : Value} {rows : List (List Piece)}
    (h : setupInputRows input value = .ok rows) :
    Piece.outputs rows.flatten = Validation.collectOutputs value := by
  obtain ⟨pieces, hpieces, h⟩ := Success.bind_eq_ok.mp h
  injection h with h
  subst h
  -- with or without the line of the directive, there is one row with pieces of the value
  rw [← outputs_assignedPieces hpieces]
  split <;> simp

/-- The setup section expands the outputs of steps in the input values, in order. -/
theorem outputs_setupRows {entries : List (String × Value)} {rows : List (List Piece)}
    (h : setupRows entries = .ok rows) :
    Piece.outputs rows.flatten = entries.flatMap fun e => Validation.collectOutputs e.2 := by
  induction entries generalizing rows with
  | nil =>
    cases h
    rfl
  | cons e rest ih =>
    obtain ⟨here, hhere, h⟩ := Success.bind_eq_ok.mp h
    obtain ⟨later, hlater, h⟩ := Success.bind_eq_ok.mp h
    injection h with h
    subst h
    rw [List.flatten_append, Piece.outputs_append, outputs_setupInputRows hhere, ih hlater,
      List.flatMap_cons]

/-- The script of a compiled step has a setup section made of pieces, and these expand the outputs
of steps in the input values of the step. -/
theorem exists_setupRows_of_compile {action : Action} {invocation : Invocation}
    {carry : CarryChannel} {step : Step} (h : action.compile invocation carry = .ok step) :
    ∃ (info : ActionInfo) (rows : List (List Piece)) (run : String) (exportCode : List String),
      step.action = some info
      ∧ setupRows info.inputValues.entries = .ok rows
      ∧ step.run = .text (script
          (preamble step.name action.description (rows.map Piece.assemble)
            (checks action.inputs)) run exportCode)
      ∧ Piece.outputs rows.flatten =
          info.inputValues.values.flatMap Validation.collectOutputs := by
  obtain ⟨c, rfl⟩ := compile_eq_ok_iff.mp h
  have hsetup := c.setup_eq
  rw [setup_eq_rows] at hsetup
  obtain ⟨rows, hrows, hlines⟩ := Success.map_eq_ok.mp hsetup
  refine ⟨c.info, rows, c.run, c.exportCode, rfl, hrows, ?_, ?_⟩
  · rw [hlines]
    rfl
  · rw [outputs_setupRows hrows, OrderedMap.values, List.flatMap_map]
    rfl

end Action

namespace Validation

open ShellFlow.Action Shell

/-- **What is expanded has been checked.** The outputs of steps that an assignment expands are those
that the reference check collects from the value, in order and with repetitions; a shell that reads
the assignment finds the expansions of its pieces and no other. So in a workflow that passes the
check, every output of a step that is expanded in the setup section of a compiled step is one of a
step of the same job. The pieces remember which reference a text came from, which the script alone
would not tell. -/
theorem emitted_outputs :
    (∀ (var : String) (v : Value) (line : String), assignment var v = .ok line →
      ∃ pieces, assignedPieces v = .ok pieces ∧ line = var ++ "=" ++ Piece.assemble pieces
        ∧ Piece.outputs pieces = collectOutputs v
        ∧ referredSteps v = (Piece.outputs pieces).map Prod.fst
        ∧ (isIdentifier var = true → v.HasVariableNames →
            ∃ word, commands? line = some [.assignment var word]
              ∧ word.expanded = (pieces.filterMap Piece.reference?).map Reference.var))
    ∧ ∀ (w w' : Workflow), validateStepRefs w = .ok w' →
        ∀ e ∈ w.jobs.entries, ∀ step ∈ e.2.steps,
        ∀ (action : Action) (invocation : Invocation) (carry : CarryChannel),
          action.compile invocation carry = .ok step →
          ∃ (info : ActionInfo) (rows : List (List Piece)) (run : String)
            (exportCode : List String),
            step.action = some info
            ∧ setupRows info.inputValues.entries = .ok rows
            ∧ step.run = .text (script
                (preamble step.name action.description (rows.map Piece.assemble)
                  (checks action.inputs)) run exportCode)
            ∧ Piece.outputs rows.flatten = info.inputValues.values.flatMap collectOutputs
            ∧ ∀ target output, (target, output) ∈ Piece.outputs rows.flatten →
                HasStep e.2 target := by
  constructor
  · intro var v line h
    obtain ⟨pieces, hpieces, hline⟩ := exists_pieces_of_assignment h
    have houtputs := outputs_assignedPieces hpieces
    refine ⟨pieces, hpieces, hline, houtputs, ?_, ?_⟩
    · rw [referredSteps_eq_collected, houtputs]
    · intro hvar hname
      obtain ⟨word, hcommands, -, hexpanded⟩ := exists_commands?_assignment hvar hname h
      rw [variablesOf_eq_map, ← references_assignedPieces hpieces] at hexpanded
      exact ⟨word, hcommands, hexpanded⟩
  · intro w w' h e he step hstep action invocation carry hcompile
    have hsound : RefsSound e.2 := refsSound_of_validateStepRefs h e he
    obtain ⟨info, rows, run, exportCode, hinfo, hrows, hrun, houtputs⟩ :=
      exists_setupRows_of_compile hcompile
    refine ⟨info, rows, run, exportCode, hinfo, hrows, hrun, houtputs, ?_⟩
    -- an output in the rows comes from an input value, and so the check has seen it
    intro target output hmem
    rw [houtputs] at hmem
    obtain ⟨v, hv, hmem⟩ := List.mem_flatMap.mp hmem
    obtain ⟨entry, hentry, rfl⟩ := List.mem_map.mp hv
    rw [collectOutputs_eq_stepOutputs, mem_stepOutputs_iff] at hmem
    exact hsound.known step hstep info hinfo entry hentry target output hmem

/-! ## A list with the output of a step -/

/-- Two targets, the second of which is the output of a step, in a tuple with an absent value. -/
def releaseTargets : Value :=
  .list [.text "a b", .tuple [.null, .reference (.stepOutput "build-app" "tag")]]

/-- A call that gives the targets, and the tag from the environment. -/
def releaseCall : Invocation :=
  OrderedMap.ofList
    [("note", .text "done"), ("targets", releaseTargets), ("tag", .reference (.envVar "TAG"))]

def releaseStep : Step :=
  (publish.compile releaseCall).toOption.getD (Step.plain (.text "publish") (.text ""))

/-- A command with the name of the step, and the step that is given its output. -/
def releaseJob : Job :=
  stepsJob "release" [Step.plain (.text "build-app") (.text "make"), releaseStep]

def releaseWorkflow : Workflow where
  name := .text "releases"
  jobs := OrderedMap.ofList [("release", releaseJob)]
  env := ∅
  named := by
    intro e he
    cases List.mem_singleton.mp he
    rfl

/-- The targets mention one step output at the end of a nested list. It is expanded once, and its
step is one of the job that was let through. -/
theorem emitted_outputs_release :
    (∃ line pieces, assignment "INPUT_targets" releaseTargets = .ok line
      ∧ line = "INPUT_targets=" ++ Piece.assemble pieces
      ∧ Piece.outputs pieces = [("build-app", "tag")])
    ∧ validateStepRefs releaseWorkflow = .ok releaseWorkflow
    ∧ publish.compile releaseCall = .ok releaseStep
    ∧ ∃ (info : ActionInfo) (rows : List (List Piece)), releaseStep.action = some info
        ∧ setupRows info.inputValues.entries = .ok rows
        ∧ Piece.outputs rows.flatten = info.inputValues.values.flatMap collectOutputs
        ∧ ("build-app", "tag") ∈ Piece.outputs rows.flatten ∧ HasStep releaseJob "build-app" := by
  have hvalid : validateStepRefs releaseWorkflow = .ok releaseWorkflow := rfl
  have hcompile : publish.compile releaseCall = .ok releaseStep := rfl
  refine ⟨?_, hvalid, hcompile, ?_⟩
  · obtain ⟨pieces, -, hline, houtputs, -⟩ := emitted_outputs.1 "INPUT_targets" releaseTargets _ rfl
    exact ⟨_, pieces, rfl, hline, houtputs⟩
  · obtain ⟨info, rows, run, exportCode, hinfo, hrows, -, houtputs, hnamed⟩ :=
      emitted_outputs.2 _ _ hvalid ("release", releaseJob) (List.mem_singleton_self _) releaseStep
        (List.mem_cons_of_mem _ List.mem_cons_self) publish releaseCall .standard hcompile
    have hmem : ("build-app", "tag") ∈ Piece.outputs rows.flatten := by
      rw [houtputs]
      cases hinfo
      exact List.mem_singleton_self _
    exact ⟨info, rows, hinfo, hrows, houtputs, hmem, hnamed _ _ hmem⟩

end Validation

end ShellFlow

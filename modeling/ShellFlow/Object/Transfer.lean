import ShellFlow.EnvTransfer
import ShellFlow.Object.Jobs

/-!
# Env transfer among objects

The env transfer of workflows in which something else stands among the jobs or their steps. The
steps of a producer are looked at only if there is an env output to look for, and those of a
consumer not at all.

## Main statements

* `exportStep_job`, `transformProducer_job`: of a job of steps only they are those of the job.
* `transferEnv_workflow`: of a workflow it is that of the workflow.
-/

namespace ShellFlow.Object

/-! ## Producers -/

/-- The sanitized name of an object that stands for a step, if it declares an output. -/
def declaring? (output : String) (o : Object) : Except Failure (Option String) := do
  let action ← o.field "action"
  if action.isNull then .ok none
  else if ← (← action.field "outputs").holds (.text output) then
    .ok (some (sanitize (← (← o.nameOf).variablePart)))
  else .ok none

/-- The sanitized names of the steps whose variables are searched. -/
def searchOrder (transfer : EnvTransfer) (output : String) : Object → Except Failure (List String)
  | .job j => .ok (transfer.searchOrder j output)
  | o => do
    let declared ← (← (← o.field "steps").reversedItems).mapM (declaring? output)
    .ok (transfer.searchAfter declared.reduceOption)

/-- The lines that write the value of an env output of an object. -/
def exportOutput (transfer : EnvTransfer) (name : Label) (o : Object) (output : Value) :
    Except Failure (List String) := do
  let output ← output.variablePart
  let name ← name.variablePart
  .ok (EnvTransfer.exportOutput name output (← o.searchOrder transfer output))

/-- The step that writes the values of an object that stands for a job. -/
def exportStep (transfer : EnvTransfer) (name : Label) (o : Object) : Except Failure Step := do
  let blocks ← (← (← o.field "env_outputs").values).mapM (exportOutput transfer name o)
  .ok (transfer.stepOfBlocks name.display blocks)

/-- An object that stands for a job, as a producer. -/
def transformProducer (transfer : EnvTransfer) (name : Label) : Object → Except Failure Object
  | .job j => do
    let name ← if j.envOutputs.isEmpty then .ok name.display else name.variablePart
    .ok (.job (transfer.transformProducer name j))
  | o => do
    let outputs ← (← o.field "outputs").toEntries
    let file := Value.text (EnvTransfer.outputFile name.display)
    let outputs := Value.insertEntry (.text (EnvTransfer.outputArtifact name.display)) file outputs
    let steps ← (← o.field "steps").items
    let steps := steps ++ [.step (← o.exportStep transfer name)]
    match o with
    | .mixedJob j _ => .ok (.mixedJob { j with outputs := namedOnly outputs } steps)
    | o => o.withFields [("outputs", .value (.mapping outputs)), ("steps", ofTuple steps)]

/-! ## Consumers -/

/-- The producers that an object needs, each once. -/
def neededProducers (producers : List Value) (o : Object) : Except Failure (List Value) := do
  let needs ← (← o.field "needs").values
  needs.forM Value.checkFixed
  let needed := needs.filter fun need => producers.any need.same
  .ok ((needed.foldl (fun acc v => Value.insertEntry v () acc) []).map Prod.fst)

/-- An object that stands for a job, as a consumer. -/
def transformConsumer (transfer : EnvTransfer) (producers : List Value) :
    Object → Except Failure Object
  | .job j => do
    EnvTransfer.checkNeeds j
    .ok (.job (transfer.transformConsumer j (producers.filterMap Value.text?)))
  | o => do
    let needed := (← o.neededProducers producers).map Value.display
    if needed.isEmpty then .ok o
    else
      let inputs ← (← o.field "inputs").values
      let inputs := needed.map (fun need => .text (EnvTransfer.outputArtifact need)) ++ inputs
      let steps := .step (transfer.importStep needed) :: (← (← o.field "steps").items)
      let changes := [("inputs", .value (.tuple inputs)), ("steps", ofTuple steps)]
      match o with
      | .mixedJob j _ => .ok (.mixedJob { j with inputs := inputs } steps)
      -- with artifacts for its inputs a template is no template any more
      | .template mark .. => .ok (.struct mark o.kindName (changedFields changes o.fields))
      | o => o.withFields changes

/-! ## Workflows -/

/-- The names of the objects that have env outputs. -/
def producerNames (jobs : List (Value × Object)) : Except Failure (List Value) :=
  jobs.filterMapM fun e => do
    .ok (if (← e.2.field "env_outputs").isTruthy then some e.1 else none)

/-- An object that stands for a job, extended on the sides on which it takes part. -/
def transformJob (transfer : EnvTransfer) (producers : List Value) (name : Value) (o : Object) :
    Except Failure Object := do
  let o ← if producers.any name.same then o.transformProducer transfer name else .ok o
  o.transformConsumer transfer producers

/-- The env transfer of any object. -/
def transferEnv (transfer : EnvTransfer) (o : Object) : Except Failure Object :=
  match o with
  | .workflow w => (transfer.apply w).map .workflow
  | o => do
    let jobs ← o.jobsOf
    let producers ← producerNames jobs
    o.withJobs (← jobs.mapM fun e => return (e.1, ← e.2.transformJob transfer producers e.1))

theorem transferEnv_workflow (transfer : EnvTransfer) (w : Workflow) :
    transferEnv transfer (.workflow w) = (transfer.apply w).map .workflow := rfl

/-! ## Jobs of steps only -/

theorem values_ofNames (names : List String) : (ofNames names).values = .ok (names.map .text) := by
  simp [values, ofNames, items, Value.items, asValue, plain?, bind, Except.bind]

theorem mapM_exportOutput (transfer : EnvTransfer) (name : String) (j : Job)
    (outputs : List String) :
    (outputs.map .text).mapM (exportOutput transfer (.text name) (.job j)) =
      .ok (outputs.map fun output =>
        EnvTransfer.exportOutput name output (transfer.searchOrder j output)) := by
  induction outputs with
  | nil => rfl
  | cons output rest ih =>
    rw [List.map_cons, List.mapM_cons, ih]
    rfl

theorem exportStep_job (transfer : EnvTransfer) (name : String) (j : Job) :
    exportStep transfer (.text name) (.job j) = .ok (transfer.exportStep name j) := by
  have hfield : (Object.job j).field "env_outputs" = .ok (ofNames j.envOutputs) := rfl
  simp only [exportStep, hfield, bind, Except.bind, values_ofNames, mapM_exportOutput]
  rfl

theorem transformProducer_job (transfer : EnvTransfer) (name : String) (j : Job) :
    transformProducer transfer (.text name) (.job j) =
      .ok (.job (transfer.transformProducer name j)) := by
  simp only [transformProducer]
  split <;> rfl

end ShellFlow.Object

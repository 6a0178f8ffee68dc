import ShellFlow.Matrix
import ShellFlow.Object.Field

/-!
# Jobs and workflows of objects

Making jobs, job templates and workflows of any objects. The objects are looked at only as far as
the making itself goes: a job needs some steps, whatever they are, and a workflow names its jobs.

## Main statements

* `ofSteps_steps`: a job of steps and nothing else is no mixed one.
* `ofJobs_map_job`: a workflow of jobs and nothing else is no mixed one.
* `collisions_map_step`: among steps the collisions are those of the steps.
* `place_matrixBuilder_job`: a job comes about in a matrix under its name and with its variables.
-/

namespace ShellFlow.Object

/-! ## Jobs -/

def ofSteps (j : Job) (items : List Object) : Object :=
  match leadingSteps items with
  | (steps, none) => .job { j with steps := steps }
  | _ => .mixedJob { j with steps := [] } items

theorem ofSteps_steps (j : Job) : ofSteps j (j.steps.map .step) = .job j := by
  simp [ofSteps, leadingSteps_map]

/-- A job without a template. -/
def makeJob (name : Label) (items : List Object) (settings : Job.Settings) :
    Except Failure Object := do
  -- only whether there is a step matters here
  let j ← Job.make name (items.map fun _ => Step.plain name .null) settings
  .ok (ofSteps j items)

/-- The sanitized names of the objects that were made from actions, with their positions
from `i` on. -/
def actionNames (i : Nat) : List Object → Except Failure (List (String × Nat))
  | [] => .ok []
  | o :: rest => do
    let action ← o.field "action"
    if action.isNull then actionNames (i + 1) rest
    else
      let name ← (← o.nameOf).variablePart
      .ok ((sanitize name, i) :: (← actionNames (i + 1) rest))

/-- The collisions among objects that stand for steps. -/
def collisions (owner : Label) (items : List Object) : Except Failure (List Failure) :=
  (actionNames 0 items).map (sharedNames owner)

theorem isNull_ofActionInfo (info : ActionInfo) : (ofActionInfo info).isNull = false := by
  simp only [ofActionInfo, ofStruct]
  split <;> rfl

theorem actionNames_map_step (i : Nat) (steps : List Step) :
    actionNames i (steps.map .step) = ShellFlow.actionNames i steps := by
  induction steps generalizing i with
  | nil => rfl
  | cons s rest ih =>
    simp only [List.map_cons, actionNames, ShellFlow.actionNames, field_action_step, ih,
      nameOf_step]
    cases s.action with
    | none => rfl
    | some info =>
      simp only [ofOption, bind, Except.bind, isNull_ofActionInfo]
      rfl

theorem collisions_map_step (owner : Label) (steps : List Step) :
    collisions owner (steps.map .step) = nameCollisions owner steps := by
  simp only [collisions, nameCollisions, actionNames_map_step]

/-! ## Templates -/

/-- A job template with fixed steps. -/
def defineTemplate (mark : Nat) (template : JobTemplate) (items : List Object)
    (lists : JobTemplate.Lists) : Except Failure Object := do
  let (fixed, listed) :=
    match leadingSteps items with
    | (steps, none) => (steps, [])
    | _ => ([], items)
  let t ← JobTemplate.define { template with steps := .fixed fixed } lists
  .ok (.template mark t listed)

/-- What the computed steps of a job template come to. -/
abbrev StepFunction := JobContext → Except Failure (List Object)

/-- The steps of a job template for some input values. -/
def stepsFor (computed : StepFunction) (t : JobTemplate) (listed : List Object)
    (resolved : Invocation) : Except Failure (List Object) :=
  match t.steps, listed with
  | .computed _, _ => computed { inputs := resolved, job := t.name }
  | .fixed steps, [] => .ok (steps.map .step)
  | .fixed _, listed => .ok listed

/-- Makes the job of a call of a job template. -/
def compileTemplate (computed : StepFunction) (t : JobTemplate) (listed : List Object)
    (invocation : Invocation) : Except Failure Object := do
  let (j, steps) ←
    t.compileWith (stepsFor computed t listed) (collisions t.name) invocation
  .ok (ofSteps j steps)

/-- Makes the step or the job of a call. -/
def call (computed : StepFunction) (values : Option Invocation) (keywords : Invocation) :
    Object → Except Failure Object
  | .action a => (a.call values keywords).map .step
  | .template _ t listed => do
    compileTemplate computed t listed (← t.invocationOf values keywords)
  | o => o.refuse "callable"

/-! ## What is read as an action or a job template -/

/-- An object in the place of a type. -/
def asType : Object → InputType
  | .type t => t
  | o =>
    .ofStray ⟨o.kindName, o.fields.map fun f => (f.1, f.2.asValue)⟩ o.asValue

/-- The declared inputs that entries are. -/
def schemaOf (entries : List (Value × Object)) : Schema :=
  OrderedMap.ofList (entries.filterMap fun e => e.1.text?.map fun key => (key, e.2.asType))

/-- The declared inputs of an object, after a look whether a call gives others. -/
def inputsFor (kind : String) (provided : Invocation) (o : Object) : Except Failure Schema := do
  let name ← o.nameOf
  let inputs ← o.field "inputs"
  let known ← provided.keys.mapM fun key => return (key, ← inputs.holds (.text key))
  match known.find? fun e => !e.2 with
  | some (key, _) =>
    .error (.unknownInput name (.text key) (← inputs.values) (.text kind))
  | none => .ok (schemaOf (← inputs.pairs))

/-- The values of a call that are inputs of a job. -/
def jobInputs (invocation : Invocation) : Invocation :=
  invocation.filter fun key _ => !JobTemplate.reservedKeys.contains key

/-- The values of a call that are inputs of an action. -/
def actionInputs (invocation : Invocation) : Invocation :=
  invocation.filter fun key _ => key != Action.aliasKey

/-- The executor of a call of an object that is read as a job template. -/
def executorFor (invocation : Invocation) (o : Object) : Except Failure Value := do
  let own ←
    match (invocation.get? "executor").getD .null with
    | .null => o.valueOf "executor"
    | executor => .ok executor
  if own.isNull then .error (.missingExecutor (← o.nameOf)) else .ok own

/-- The job template that an object is read as, but for its steps. -/
def asTemplate (inputs : Schema) (executor : Value) (o : Object) : Except Failure JobTemplate := do
  .ok
    { name := ← o.nameOf
      steps := .computed fun _ => .ok []
      inputs := inputs
      executor := executor
      needs := ← (← o.field "needs").values
      artifactInputs := ← (← o.field "artifact_inputs").values
      artifacts := namedOnly (← (← o.field "artifacts").toEntries)
      env := namedOnly (← o.envOf)
      envFrom := ← (← o.field "env_from").values
      condition := ← o.valueOf "condition"
      continueOnError := ← o.valueOf "continue_on_error"
      retry := ← o.valueOf "retry"
      timeout := ← o.valueOf "timeout"
      envOutputs := (← (← o.field "env_outputs").values).filterMap Value.text?
      description := ← o.valueOf "description" }

/-- Makes a job of an object that is read as a job template. -/
def compileJob (computed : StepFunction) (invocation : Invocation) :
    Object → Except Failure Object
  | .template _ t listed => compileTemplate computed t listed invocation
  | o => do
    let inputs ← o.inputsFor "job" (jobInputs invocation)
    let _ ← Invocation.resolve (← o.nameOf) inputs (jobInputs invocation) "job"
    let steps ← (← o.field "steps").items
    let issues ← collisions (← o.nameOf) steps
    if !issues.isEmpty then
      .error (.validation (.text "Name collision") (← o.nameOf) issues)
    else
      let t ← o.asTemplate inputs (← o.executorFor invocation)
      compileTemplate (fun _ => .ok steps) t [] invocation

/-- Makes a step of an object that is read as an action. -/
def compileAction (carry : CarryChannel) (invocation : Invocation) : Object → Except Failure Step
  | .action a => a.compile invocation carry
  | o => do
    let inputs ← o.inputsFor "action" (actionInputs invocation)
    let _ ← Invocation.resolve (← o.nameOf) inputs (actionInputs invocation) "action"
    let outputs ← (← (← o.field "outputs").values).mapM Value.variablePart
    let a : Action :=
      { name := ← o.nameOf, inputs := inputs, outputs := outputs
        description := ← o.valueOf "description", run := ← o.valueOf "run"
        packages := ← (← o.field "packages").values }
    a.compile invocation carry

/-! ## Mappings of jobs -/

/-- Objects under their own names; of two with one name the later one counts. -/
def collect (items : List Object) : Except Failure Object := do
  let entries ← items.mapM fun o => do
    let name ← o.nameOf
    name.checkFixed
    return (name, o)
  .ok (ofMapping (← Value.collectEntries entries))

/-- The artifact names of an object that stands for a job. -/
def artifactsOf (o : Object) : Except Failure (List Value) := do
  let names ← (← o.field "outputs").values
  names.forM Value.checkFixed
  .ok names

/-- The values that occur more than once, in order. -/
def repeated (names : List Value) : Except Failure (List Value) :=
  let once := (names.foldl (fun acc v => Value.insertEntry v () acc) []).map Prod.fst
  match Value.sort (once.filter fun v => names.countP v.same > 1) with
  | .ok names => .ok names
  | .error e => .error (.unsuitable e.message)

/-- Refuses objects of which two make an artifact of one name. -/
def checkArtifacts (entries : List (Value × Object)) : Except Failure Unit := do
  let names ← repeated (← entries.mapM fun e => artifactsOf e.2).flatten
  if names.isEmpty then .ok () else .error (.duplicateArtifact (.list names))

/-! ## Matrix jobs -/

/-- Entries with the variables of a combination. -/
def withVars (combination : Matrix.Combination) (env : List (Value × Value)) :
    List (Value × Value) :=
  (Matrix.vars combination).entries.foldl (fun acc e => Value.insertEntry (.text e.1) e.2 acc) env

/-- An object as the job of a combination. -/
def placeInMatrix (name : String) (combination : Matrix.Combination) :
    Object → Except Failure Object
  | .job j => .ok (.job (Matrix.place name combination j))
  | o => do
    let env := withVars combination (← o.envOf)
    match o.struct? with
    | some _ => o.withFields [("name", .value (.text name)), ("env", .value (.mapping env))]
    | none => (← o.withEnv env).withName (.text name)

/-- The builder of a template that builds any objects; they need an environment and a name. -/
def matrixBuilder (template : OrderedMap String Value → Except Failure Object) :
    Matrix.Builder Object where
  template := template
  checkEnv := fun o => discard o.envOf
  place := placeInMatrix

theorem place_matrixBuilder_job (template : OrderedMap String Value → Except Failure Object)
    (name : String) (combination : Matrix.Combination) (j : Job) :
    (matrixBuilder template).place name combination (.job j) =
      .ok (.job (Matrix.place name combination j)) := rfl

/-! ## Workflows -/

/-- An object as the job under a name. -/
def place (key : Value) (o : Object) : Except Failure Object := do
  let name ← o.nameOf
  if name.same key then .ok o else o.withName key

/-- A job under a name that is a text. -/
def namedJob? : Value × Object → Option (String × Job)
  | (.text key, .job j) => some (key, j)
  | _ => none

def ofJobs (name : Label) (entries : List (Value × Object)) (env : OrderedMap String Value) :
    Except Failure Object := do
  match entries.mapM namedJob? with
  | some jobs => .ok (.workflow (Workflow.ofJobs name (OrderedMap.ofList jobs) env))
  | none =>
    let placed ← (← Value.collectEntries entries).mapM fun e => return (e.1, ← place e.1 e.2)
    .ok (.mixedWorkflow name placed env)

/-- The jobs of an object that stands for a workflow. -/
def jobsOf (o : Object) : Except Failure (List (Value × Object)) := do
  (← o.field "jobs").pairs

def withJobs (entries : List (Value × Object)) : Object → Except Failure Object
  | .workflow w => ofJobs w.name entries w.env
  | .mixedWorkflow name _ env => ofJobs name entries env
  | o => o.lacksMethod "with_jobs"

/-- A workflow with its jobs changed. -/
def changeJobs (change : List (Value × Object) → Except Failure (List (Value × Object)))
    (o : Object) : Except Failure Object := do
  if o.isWorkflow then o.withJobs (← change (← o.jobsOf)) else o.lacksMethod "with_jobs"

/-- What stands under a name in some entries. -/
def entryAt (name : String) (entries : List (Value × Object)) : Except Failure Object :=
  match entries.find? fun e => (Value.text name).same e.1 with
  | some e => .ok e.2
  | none => .error (.missingKey name)

/-- The complaint about a name where a position is expected. -/
def positionComplaint? : Object → Option String
  | .value (.text _) => some "string indices must be integers, not 'str'"
  | .value (.bytes _) => some "byte indices must be integers or slices, not str"
  | .list _ | .value (.list _) => some "list indices must be integers or slices, not str"
  | .tuple _ | .value (.tuple _) => some "tuple indices must be integers or slices, not str"
  | _ => none

/-- What stands under a name in a workflow or a mapping. -/
def itemAt (name : String) : Object → Except Failure Object
  | .workflow w => (w.job name).map .job
  | .mixedWorkflow _ jobs _ => entryAt name jobs
  | o =>
    match o.entries?, o.positionComplaint? with
    | some entries, _ => entryAt name entries
    | none, some text => .error (.unsuitable text)
    | none, none => o.refuse "subscriptable"

theorem mapM_map_job (jobs : List (String × Job)) :
    (jobs.map fun e => (Value.text e.1, Object.job e.2)).mapM namedJob? = some jobs := by
  induction jobs with
  | nil => rfl
  | cons e rest ih => simp [namedJob?, ih]

theorem ofJobs_map_job (name : Label) (jobs : List (String × Job)) (env : OrderedMap String Value) :
    ofJobs name (jobs.map fun e => (.text e.1, .job e.2)) env =
      .ok (.workflow (Workflow.ofJobs name (OrderedMap.ofList jobs) env)) := by
  simp only [ofJobs, mapM_map_job]

end ShellFlow.Object

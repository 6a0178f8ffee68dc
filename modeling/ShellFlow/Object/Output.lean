import ShellFlow.CommandLine.Overview
import ShellFlow.Listing
import ShellFlow.Object.Jobs
import ShellFlow.Record

/-!
# What is made of workflows of objects

The listing, the engine record and the overview of any object that stands for a workflow. Of a
workflow they are those of the workflow. Of anything else the fields are looked up one by one, in
the order in which they are needed; an overview shows everything before the first that is missing.

## Main statements

* `listing_workflow`, `toRecord_workflow`: of a workflow they are those of the workflow.
-/

namespace ShellFlow.Object

/-! ## Listings -/

/-- The lines of objects that stand for steps, from position `i` on. -/
def stepListing (i : Nat) : List Object → Except Failure (List String)
  | [] => .ok []
  | o :: rest => do
    let name ← o.nameOf
    let condition ← o.valueOf "condition"
    let script ← Workflow.scriptText (← o.valueOf "run")
    .ok (Workflow.stepHeading i name condition :: script :: (← stepListing (i + 1) rest))

/-- The lines of an object that stands for a job. -/
def jobListing (name : String) (o : Object) : Except Failure (List String) := do
  .ok (Workflow.jobBlock name (← stepListing 0 (← (← o.field "steps").items)))

/-- All scripts of any object. -/
def listing (o : Object) : Except Failure String :=
  match o with
  | .workflow w => w.listing
  | o => do
    let blocks ← (← o.jobsOf).mapM fun e => jobListing e.1.display e.2
    .ok (Text.joinLines blocks.flatten)

/-! ## Records -/

/-- The names of the types of the inputs that an object declares. -/
def typeNames (o : Object) : Except Failure (List (Value × Value)) := do
  (← (← o.field "inputs").pairs).mapM fun e => return (e.1, ← e.2.nameOf)

/-- What an object tells about the action call that made a step. -/
def actionFacts (o : Object) : Except Failure ActionFacts := do
  .ok
    { name := ← o.nameOf
      actionName := ← o.valueOf "action_name"
      inputs := ← o.typeNames
      outputs := ← (← o.field "outputs").values
      description := ← o.valueOf "description"
      inputValues := ← (← o.field "input_values").toEntries }

/-- The record of an object that stands for a step. -/
def stepRecord : Object → Except Failure StepRecord
  | .step s => StepRecord.ofStep s
  | o => do
    let name ← o.nameOf
    let run ← o.valueOf "run"
    let condition ← o.valueOf "condition"
    let env ← o.envOf
    let packages ← listToJson (← (← o.field "packages").values)
    let action ← o.field "action"
    let info ← if action.isNull then .ok none else do (← action.actionFacts).fields.map some
    StepRecord.ofParts
      { name := name, run := run, condition := condition, env := env, packages := packages,
        info := info }

/-- What an object tells about the declaration of a job. -/
def jobFacts (o : Object) : Except Failure JobFacts := do
  .ok
    { name := ← o.nameOf
      inputs := ← o.typeNames
      envOutputs := ← (← o.field "env_outputs").values
      artifacts := ← (← o.field "artifacts").toEntries
      description := ← o.valueOf "description"
      inputValues := ← (← o.field "input_values").toEntries }

/-- The record of an object that stands for a job. -/
def jobRecord : Object → Except Failure JobRecord
  | .job j => JobRecord.ofJob j
  | o => do
    let declaration ← o.field "meta"
    let info ←
      if declaration.isNull then .ok none else do (← declaration.jobFacts).fields.map some
    let executor ← (← o.valueOf "executor").toJson
    let steps ← (← (← o.field "steps").items).mapM stepRecord
    let outputs ← (← o.field "outputs").toEntries
    let inputs ← (← o.field "inputs").values
    let needs ← (← o.field "needs").values
    let env ← o.envOf
    let envFrom ← listToJson (← (← o.field "env_from").values)
    let condition ← o.valueOf "condition"
    let continueOnError ← o.valueOf "continue_on_error"
    let retry ← (← o.valueOf "retry").toJson
    let timeout ← (← o.valueOf "timeout").toJson
    JobRecord.ofParts
      { executor := executor, steps := steps, outputs := outputs, inputs := inputs, needs := needs,
        env := env, envFrom := envFrom, condition := condition, continueOnError := continueOnError,
        retry := retry, timeout := timeout, info := info }

def toRecord (o : Object) : Except Failure WorkflowRecord :=
  match o with
  | .workflow w => WorkflowRecord.ofWorkflow w
  | o => do
    let name ← o.nameOf
    let env ← o.envOf
    let jobs ← (← o.jobsOf).mapM fun e => return (e.1, ← e.2.jobRecord)
    WorkflowRecord.ofParts name env jobs

def toJsonText (indent : Option Nat) (o : Object) : Except Failure String := do
  (← o.toRecord).toText indent

/-- The JSON text of any object, with the indent that a value says. -/
def toIndentedText (indent : Value) (o : Object) : Except Failure String := do
  let record ← o.toRecord
  record.toText (← WorkflowRecord.widthOf indent)

/-! ## Overviews -/

/-- Looks something up for an overview. -/
def lookUp {α : Type} (r : Except Failure α) : Session α := Session.ofExcept r

/-- What an object shows when it is joined to a text. -/
def joined (o : Object) : Except Failure (List Value) :=
  match o.values with
  | .ok values => .ok values
  | .error _ => .error (.unsuitable "can only join an iterable")

/-- A labelled list, left out if it counts as false. -/
def wiring (label : String) (o : Object) : Session Unit :=
  if o.isTruthy then do Overview.wiring label (← lookUp o.joined) else Session.ok ()

/-- The line of an object that stands for a step at position `i`. -/
def stepLine (i : Nat) (o : Object) : Except Failure String := do
  let action ← o.field "action"
  let kind ← if action.isNull then .ok Overview.scriptKind else action.valueOf "action_name"
  let condition ← o.valueOf "condition"
  .ok (Overview.stepText i (← o.nameOf) kind condition)

/-- The overview of objects that stand for steps, from position `i` on. -/
def stepLines (i : Nat) : List Object → Session Unit
  | [] => Session.ok ()
  | o :: rest => do
    Overview.print [← lookUp (stepLine i o)]
    stepLines (i + 1) rest

/-- The overview of an object that stands for a job. -/
def jobOverview (name : String) (o : Object) : Session Unit :=
  match o with
  | .job j => Overview.job name j
  | o => do
    Overview.print ["", "JOB: " ++ name]
    Overview.print ["Executor: " ++ (← lookUp (o.valueOf "executor")).display]
    let needs ← lookUp (o.field "needs")
    let envOutputs ← lookUp (o.field "env_outputs")
    let artifacts ← lookUp (o.field "outputs")
    let artifactNames ← lookUp artifacts.items
    let inputs ← lookUp (o.field "inputs")
    wiring "Needs" needs
    wiring "Env outputs" envOutputs
    wiring "Artifacts" (ofList artifactNames)
    wiring "Artifact inputs" inputs
    let steps ← lookUp (o.field "steps")
    stepLines 0 (← lookUp steps.items)

def overview (o : Object) : Session Unit :=
  match o with
  | .workflow w => Overview.workflow w
  | o => do
    let name ← lookUp o.nameOf
    Session.say (.header ("Workflow: " ++ name.display))
    let jobs ← lookUp o.jobsOf
    jobs.forM fun e => e.2.jobOverview e.1.display

/-! ## Selections -/

/-- The names that no job has, in the given order. -/
def missingJobs (names : List String) (o : Object) : Except Failure (List String) :=
  match o with
  | .workflow w => .ok (w.missingJobs names)
  | o => do
    let jobs ← o.jobsOf
    .ok (names.filter fun name => !jobs.any fun e => (Value.text name).same e.1)

/-- The jobs of some names, once each, in the order in which they are mentioned first. -/
def restrict (names : List String) (o : Object) : Except Failure Object :=
  match o with
  | .workflow w => .ok (.workflow (w.restrict names))
  | o => do
    let jobs ← o.jobsOf
    let chosen := names.filterMap fun name =>
      (jobs.find? fun e => (Value.text name).same e.1).map fun e => (Value.text name, e.2)
    o.withJobs chosen

/-! ## Workflows of jobs and steps only -/

theorem listing_workflow (w : Workflow) : listing (.workflow w) = w.listing := rfl

theorem toRecord_workflow (w : Workflow) :
    toRecord (.workflow w) = WorkflowRecord.ofWorkflow w := rfl

theorem toJsonText_workflow (indent : Option Nat) (w : Workflow) :
    toJsonText indent (.workflow w) = w.toJsonText indent := rfl

end ShellFlow.Object

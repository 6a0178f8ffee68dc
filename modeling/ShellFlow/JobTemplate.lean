import ShellFlow.Action
import ShellFlow.Job

/-!
# Job templates

A job with declared inputs. A call gives values to the inputs, an executor, and further needs and
artifacts; the steps are fixed or computed from the values. No two steps that were made from actions
may have names that sanitize alike, because their outputs would share variables.
-/

namespace ShellFlow

/-- What a function that computes steps gets to see. -/
structure JobContext where
  inputs : Invocation
  job : Label

/-- The steps of a job template. -/
inductive StepSource where
  | fixed (steps : List Step)
  | computed (produce : JobContext → Except Failure (List Step))

/-- A job with declared inputs. -/
structure JobTemplate where
  name : Label
  steps : StepSource
  inputs : Schema := ∅
  envOutputs : List String := []
  artifacts : OrderedMap String Value := ∅
  artifactInputs : List Value := []
  needs : List Value := []
  env : OrderedMap String Value := ∅
  envFrom : List Value := []
  executor : Value := .null
  condition : Value := .null
  continueOnError : Value := .bool false
  retry : Value := .null
  timeout : Value := .null
  description : Label := .text ""

/-! ## Collisions -/

/-- The sanitized names of the steps that were made from actions, with their positions
from `i` on. -/
def actionNames (i : Nat) : List Step → Except Failure (List (String × Nat))
  | [] => .ok []
  | step :: rest =>
    match step.action with
    | none => actionNames (i + 1) rest
    | some _ => do
      let name ← step.name.variablePart
      .ok ((sanitize name, i) :: (← actionNames (i + 1) rest))

/-- The positions at which a name stands. -/
def positionsOf (name : String) (named : List (String × Nat)) : List Nat :=
  (named.filter fun e => e.1 == name).map Prod.snd

/-- One collision for each name that stands at two or more positions, in order of first use. -/
def sharedNames (job : Label) (named : List (String × Nat)) : List Failure :=
  (named.map Prod.fst).eraseDups.filterMap fun name =>
    let indices := positionsOf name named
    if indices.length > 1 then
      some (.generatedNameCollision job (.text name) (.text ("STEP_OUTPUT_" ++ name))
        (indices.map fun i => .int (Int.ofNat i)))
    else none

/-- The collisions among the sanitized names of the action steps, whose names must be texts. -/
def nameCollisions (job : Label) (steps : List Step) : Except Failure (List Failure) :=
  (actionNames 0 steps).map (sharedNames job)

namespace JobTemplate

/-! ## Definition -/

/-- The names in a call that configure the job and are no inputs. -/
def reservedKeys : List String := ["executor", "needs", "artifact_inputs"]

/-- The lists of a template as they are given, before they are read as lists. -/
structure Lists where
  envOutputs : Value := .list []
  artifactInputs : Value := .list []
  needs : Value := .list []
  envFrom : Value := .list []

/-- The template with its lists, if it has a name, no input has a reserved name, and its env outputs
can be part of shell variables. -/
def define (template : JobTemplate) (lists : Lists) : Except Failure JobTemplate := do
  if !template.name.isTruthy then .error (.invalidArgument "define_job() needs a name")
  else
    let clash := reservedKeys.filter template.inputs.contains
    if clash.isEmpty then
      let envOutputs ← checkNames template.name (← lists.envOutputs.items) (.text "env output")
      let artifactInputs ← lists.artifactInputs.items
      let needs ← lists.needs.items
      let envFrom ← lists.envFrom.items
      .ok { template with
        envOutputs := envOutputs, artifactInputs := artifactInputs, needs := needs,
        envFrom := envFrom }
    else
      .error (.invalidArgument
        ("job " ++ template.name.literal ++ ": input names " ++ (Value.ofTexts clash).literal
          ++ " are reserved"))

/-! ## Calls -/

/-- The steps for the given input values. -/
def stepsFor (template : JobTemplate) (resolved : Invocation) : Except Failure (List Step) :=
  match template.steps with
  | .fixed steps => .ok steps
  | .computed produce => produce { inputs := resolved, job := template.name }

/-- The executor of a call: its own, or else that of the template. -/
def executorFor (template : JobTemplate) (invocation : Invocation) : Except Failure Value :=
  match (invocation.get? "executor").getD .null with
  | .null =>
    match template.executor with
    | .null => .error (.missingExecutor template.name)
    | executor => .ok executor
  | executor => .ok executor

/-- The items that a call adds to a list of the template. -/
def added (invocation : Invocation) (key : String) : Except Failure (List Value) :=
  ((invocation.get? key).getD .null).itemsOrNone

/-- Makes the job of a call from what is in the place of its steps. The job comes without steps,
which are returned beside it. -/
def compileWith {α : Type} (template : JobTemplate)
    (stepsFor : Invocation → Except Failure (List α))
    (collisionsOf : List α → Except Failure (List Failure)) (invocation : Invocation) :
    Except Failure (Job × List α) := do
  let provided := invocation.filter fun key _ => !reservedKeys.contains key
  let resolved ← Invocation.resolve template.name template.inputs provided "job"
  let steps ← stepsFor resolved
  let collisions ← collisionsOf steps
  if !collisions.isEmpty then .error (.validation (.text "Name collision") template.name collisions)
  else
    -- a collision is reported even if there is no executor either
    let executor ← template.executorFor invocation
    let needs ← added invocation "needs"
    let artifactInputs ← added invocation "artifact_inputs"
    let job : Job :=
      { name := template.name
        executor := executor
        steps := []
        outputs := template.artifacts
        inputs := template.artifactInputs ++ artifactInputs
        needs := template.needs ++ needs
        env := template.env
        envFrom := template.envFrom
        condition := template.condition
        continueOnError := template.continueOnError
        retry := template.retry
        timeout := template.timeout
        info := some
          { name := template.name, inputs := template.inputs, envOutputs := template.envOutputs,
            artifacts := template.artifacts, description := template.description,
            inputValues := resolved } }
    .ok (job, steps)

/-- Makes the job of a call. -/
def compile (template : JobTemplate) (invocation : Invocation) : Except Failure Job := do
  let (job, steps) ←
    template.compileWith template.stepsFor (nameCollisions template.name) invocation
  .ok { job with steps := steps }

/-- The values of a call with a mapping of values, if there is one, and with keywords. -/
def invocationOf (template : JobTemplate) (values : Option Invocation) (keywords : Invocation) :
    Except Failure Invocation := do
  let entries ← Invocation.entriesOfCall "JobSpec.__call__()" id values keywords
  Invocation.ofEntries template.name template.inputs reservedKeys "job" entries

/-- Calls a template with a mapping of values, if there is one, and with keywords. -/
def call (template : JobTemplate) (values : Option Invocation) (keywords : Invocation) :
    Except Failure Job := do
  template.compile (← template.invocationOf values keywords)

/-- Equality of two sources of steps. A function equals nothing that was made elsewhere. -/
def eqvSource : StepSource → StepSource → Bool
  | .fixed as, .fixed bs => Job.eqvSteps as bs
  | _, _ => false

def eqvButSteps (a b : JobTemplate) : Bool :=
  a.name.same b.name && a.inputs.sameBy InputType.eqv b.inputs &&
    a.envOutputs == b.envOutputs && a.artifacts.sameBy Value.same b.artifacts &&
    Value.sameItems a.artifactInputs b.artifactInputs && Value.sameItems a.needs b.needs &&
    a.env.sameBy Value.same b.env && Value.sameItems a.envFrom b.envFrom &&
    a.executor.same b.executor && a.condition.same b.condition &&
    a.continueOnError.same b.continueOnError && a.retry.same b.retry &&
    a.timeout.same b.timeout && a.description.same b.description

def eqv (a b : JobTemplate) : Bool := a.eqvButSteps b && eqvSource a.steps b.steps

end JobTemplate

end ShellFlow

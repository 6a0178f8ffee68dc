import ShellFlow.Step
import ShellFlow.Value.Items

/-!
# Jobs

A job is a list of steps with everything the engine has to know to run it: which artifacts it makes
and takes, which jobs it needs, its environment, and settings that are passed on unread.
-/

namespace ShellFlow

/-- The declaration of a job and the input values of the call that made it. -/
structure JobInfo where
  name : Label
  inputs : Schema
  /-- The names of the variables that other jobs may take over from this one. -/
  envOutputs : List String
  artifacts : OrderedMap String Value
  description : Label
  inputValues : OrderedMap String Value

/-- A compiled job. -/
structure Job where
  name : Label
  executor : Value
  steps : List Step
  /-- The artifacts that the job makes, each with its path. -/
  outputs : OrderedMap String Value
  /-- The artifacts that the job takes. -/
  inputs : List Value
  /-- The jobs that have to be done before. -/
  needs : List Value
  env : OrderedMap String Value
  envFrom : List Value
  condition : Value
  continueOnError : Value
  retry : Value
  timeout : Value
  /-- The declaration that the job was made from, if there is one. -/
  info : Option JobInfo

namespace JobInfo

/-- Equality of two declarations. -/
def eqv (a b : JobInfo) : Bool :=
  a.name.same b.name && a.inputs.sameBy InputType.eqv b.inputs && a.envOutputs == b.envOutputs &&
    a.artifacts.sameBy Value.same b.artifacts && a.description.same b.description &&
    a.inputValues.sameBy Value.same b.inputValues

end JobInfo

namespace Job

/-- The names of the variables that other jobs may take over. -/
def envOutputs (job : Job) : List String :=
  match job.info with
  | some info => info.envOutputs
  | none => []

def eqvSteps : List Step → List Step → Bool
  | [], [] => true
  | a :: as, b :: bs => a.eqv b && eqvSteps as bs
  | _, _ => false

def eqv (a b : Job) : Bool :=
  a.name.same b.name && a.executor.same b.executor && eqvSteps a.steps b.steps &&
    a.outputs.sameBy Value.same b.outputs && Value.sameItems a.inputs b.inputs &&
    Value.sameItems a.needs b.needs && a.env.sameBy Value.same b.env &&
    Value.sameItems a.envFrom b.envFrom && a.condition.same b.condition &&
    a.continueOnError.same b.continueOnError && a.retry.same b.retry &&
    a.timeout.same b.timeout && Step.sameOption JobInfo.eqv a.info b.info

/-- The settings of a job that is written down as it is, without a template. -/
structure Settings where
  executor : Value := .null
  outputs : OrderedMap String Value := ∅
  inputs : Value := .null
  needs : Value := .null
  env : OrderedMap String Value := ∅
  envFrom : Value := .null
  condition : Value := .null
  continueOnError : Value := .bool false
  retry : Value := .null
  timeout : Value := .null

/-- A job without a template. It must have a step and an executor, and what it needs and takes must
be lists; what counts as false stands for the empty list. -/
def make (name : Label) (steps : List Step) (settings : Settings) : Except Failure Job :=
  let owner := "job(" ++ name.literal ++ ")"
  if steps.isEmpty then .error (.invalidArgument (owner ++ " must have at least one step"))
  else if settings.executor.isNull then
    .error (.invalidArgument (owner ++ " needs an executor"))
  else do
    let inputs ← settings.inputs.itemsOrNone
    let needs ← settings.needs.itemsOrNone
    let envFrom ← settings.envFrom.itemsOrNone
    .ok
      { name := name, executor := settings.executor, steps := steps, outputs := settings.outputs,
        inputs := inputs, needs := needs, env := settings.env, envFrom := envFrom,
        condition := settings.condition, continueOnError := settings.continueOnError,
        retry := settings.retry, timeout := settings.timeout, info := none }

end Job

/-- The jobs by their names, in order. -/
abbrev Jobs := OrderedMap String Job

/-- The jobs of a list, each under its own name; of two with one name the later one counts. -/
def Jobs.ofList (jobs : List Job) : Jobs :=
  OrderedMap.ofList (jobs.map fun job => (job.name.display, job))

end ShellFlow

import ShellFlow.Json.Verbatim
import ShellFlow.Value.Mapping
import ShellFlow.Workflow

/-!
# Engine records

What the execution engine gets of a workflow. A record holds texts where texts are expected, and the
loosely typed fields of steps and jobs are checked when it is built: all bad fields of one record
are reported together, and the steps of a job are built before the job itself. What has no text is
found only when the record is written, in the order in which it is written.
-/

namespace ShellFlow

/-! ## Checked fields -/

/-- A field of a record with what is wrong with it; the value counts only if nothing is. -/
structure Checked (α : Type) where
  issues : List RecordIssue
  value : α

namespace Checked

variable {α β : Type}

instance : Monad Checked where
  pure a := ⟨[], a⟩
  bind x f := ⟨x.issues ++ (f x.value).issues, (f x.value).value⟩

/-- A field that must be a text; bytes are read as one. -/
def text (place : List RecordPlace) (v : Value) : Checked String :=
  match v.readable? with
  | some s => ⟨[], s⟩
  | none => ⟨[⟨place, .notText, v⟩], ""⟩

/-- A field that must be a text or absent. -/
def optionalText (place : List RecordPlace) : Value → Checked (Option String)
  | .null => ⟨[], none⟩
  | v => do return some (← text place v)

/-- The items of a field that must be texts, from position `i` on. -/
def textsFrom (name : String) (i : Nat) : List Value → Checked (List String)
  | [] => ⟨[], []⟩
  | v :: rest => do
    let s ← text [.field name, .index i] v
    return s :: (← textsFrom name (i + 1) rest)

/-- A field that must be a list of texts. -/
def texts (name : String) (values : List Value) : Checked (List String) := textsFrom name 0 values

/-- The first whole number that is too large for a machine word. -/
def wholeLimit : Nat := 0x8000000000000000

/-- True of a whole number that fits into a machine word. -/
def isWord (i : Int) : Bool := -(wholeLimit : Int) ≤ i && i < wholeLimit

/-- The place of a key: numbers of a machine word are positions, all else is a name. -/
def keyPlace : Value → RecordPlace
  | .text s => .field s
  | .bool b => .index (Value.ofBool b)
  | .int i => if isWord i then .index i else .field (toString i)
  | v => .field v.literal

/-- A key of a field, which must be a text. -/
def key (name : String) (k : Value) : Checked String :=
  text [.field name, keyPlace k, .field "[key]"] k

/-- The entries of a field that must map texts to texts. -/
def textEntries (name : String) : List (Value × Value) → Checked (List (String × String))
  | [] => ⟨[], []⟩
  | (k, v) :: rest => do
    let k' ← key name k
    let v' ← text [.field name, keyPlace k] v
    return (k', v') :: (← textEntries name rest)

/-- A field that must map texts to texts. -/
def textMap (name : String) (entries : List (Value × Value)) :
    Checked (OrderedMap String String) := do
  return OrderedMap.ofList (← textEntries name entries)

def trueTexts : List String := ["1", "on", "t", "true", "y", "yes"]

def falseTexts : List String := ["0", "off", "f", "false", "n", "no"]

/-- The truth value that a number or a text is read as; `none` if it is not of a kind
that is read. -/
def readTruth : Value → Option (Except RecordProblem Bool)
  | .bool b => some (.ok b)
  | .int i =>
    if i = 1 then some (.ok true) else if i = 0 then some (.ok false)
    else if isWord i then some (.error .unreadableBoolean)
    else none
  | .float x =>
    if x.eqvInt 1 then some (.ok true) else if x.eqvInt 0 then some (.ok false)
    else if x.isWhole && x.isWithin wholeLimit then some (.error .unreadableBoolean)
    else none
  | v => v.readable?.map fun s =>
    let s := String.ofList (s.toList.map Char.toLower)
    if trueTexts.contains s then .ok true else if falseTexts.contains s then .ok false
    else .error .unreadableBoolean

/-- A field that must be a truth value, or one of the numbers and texts that are read as one. -/
def truth (place : List RecordPlace) (v : Value) : Checked Bool :=
  match readTruth v with
  | some (.ok b) => ⟨[], b⟩
  | some (.error problem) => ⟨[⟨place, problem, v⟩], false⟩
  | none => ⟨[⟨place, .notBoolean, v⟩], false⟩

/-- The value, if nothing is wrong with the fields of a record. -/
def finish (record : String) (x : Checked α) : Except Failure α :=
  if x.issues.isEmpty then .ok x.value else .error (.invalidRecord record x.issues)

end Checked

/-! ## The records -/

/-- Named data that are passed on as they are; one that has no text fails when it is written. -/
abbrev OpenFields := List (String × Except Failure Json)

/-- A step, as the engine gets it. -/
structure StepRecord where
  name : String
  run : String
  condition : Option String
  env : OrderedMap String String
  packages : List Json
  /-- What the action knew, for tools; the engine may ignore it. -/
  info : Option OpenFields

/-- A job, as the engine gets it. -/
structure JobRecord where
  executor : Json
  steps : List StepRecord
  outputs : OrderedMap String String
  inputs : List String
  needs : List String
  env : OrderedMap String String
  envFrom : List Json
  condition : Option String
  continueOnError : Bool
  retry : Json
  timeout : Json
  /-- The declaration of the job, for tools; the engine may ignore it. -/
  info : Option OpenFields

/-- A workflow, as the engine gets it. -/
structure WorkflowRecord where
  name : String
  env : OrderedMap String String
  jobs : OrderedMap String JobRecord

/-- The values of a list as plain data. -/
def listToJson (values : List Value) : Except Failure (List Json) := values.mapM Value.toJson

/-- The names of the types of declared inputs. -/
def schemaEntries (schema : Schema) : Except Failure (List (Value × Value)) :=
  schema.entries.mapM fun e => return (.text e.1, ← e.2.nameOf)

/-! ## Writing open fields -/

/-- The data, if they are not too deep to be written. -/
def checkDepth (j : Json) : Except Failure Json :=
  if j.depth ≤ Json.depthLimit then .ok j else .error Value.tooDeep

def openField (field : String × Except Failure Json) : Except Failure (String × Json) := do
  .ok (field.1, ← checkDepth (← field.2))

/-- The object of open fields, null if there are none. -/
def openToJson : Option OpenFields → Except Failure Json
  | none => .ok .null
  | some fields => do .ok (.object (← fields.mapM openField))

/-! ## Records of steps -/

/-- What an action call tells about itself. -/
structure ActionFacts where
  name : Label
  actionName : Label
  /-- The names of the types of the inputs. -/
  inputs : List (Value × Value)
  outputs : List Value
  description : Label
  inputValues : List (Value × Value)

/-- What an action knew about a step. -/
def ActionFacts.fields (facts : ActionFacts) : Except Failure OpenFields := do
  let values ← (Value.mapping facts.inputValues).toJson
  .ok
    [("name", facts.name.verbatim), ("actionName", facts.actionName.verbatim),
     ("inputs", (Value.mapping facts.inputs).verbatim),
     ("outputs", (Value.list facts.outputs).verbatim),
     ("description", facts.description.verbatim), ("inputValues", .ok values)]

/-- What the record of a step is made of. -/
structure StepParts where
  name : Value
  run : Value
  condition : Value
  env : List (Value × Value)
  packages : List Json
  info : Option OpenFields

namespace StepRecord

def ofParts (parts : StepParts) : Except Failure StepRecord :=
  Checked.finish "StepRecord" do
    let name ← Checked.text [.field "name"] parts.name
    let run ← Checked.text [.field "run"] parts.run
    let condition ← Checked.optionalText [.field "condition"] parts.condition
    let env ← Checked.textMap "env" parts.env
    return { name := name, run := run, condition := condition, env := env,
             packages := parts.packages, info := parts.info }

/-- What an action call tells about itself. -/
def facts (info : ActionInfo) : Except Failure ActionFacts := do
  .ok
    { name := info.name, actionName := info.actionName, inputs := ← schemaEntries info.inputs,
      outputs := info.outputs.map .text, description := info.description,
      inputValues := Value.namedEntries info.inputValues }

def ofStep (step : Step) : Except Failure StepRecord := do
  let packages ← listToJson step.packages
  let info ← step.action.mapM fun info => do (← facts info).fields
  ofParts
    { name := step.name, run := step.run, condition := step.condition,
      env := Value.namedEntries step.env, packages := packages, info := info }

/-- The record as plain data. -/
def toJson (r : StepRecord) : Except Failure Json := do
  let packages ← r.packages.mapM checkDepth
  let info ← openToJson r.info
  .ok (.object
    [("name", .text r.name), ("run", .text r.run), ("condition", Json.ofText? r.condition),
     ("env", Json.ofTextMap r.env), ("packages", .array packages), ("meta", info)])

end StepRecord

/-! ## Records of jobs -/

/-- What the declaration of a job tells. -/
structure JobFacts where
  name : Label
  /-- The names of the types of the inputs. -/
  inputs : List (Value × Value)
  envOutputs : List Value
  artifacts : List (Value × Value)
  description : Label
  inputValues : List (Value × Value)

/-- The declaration of a job. -/
def JobFacts.fields (facts : JobFacts) : Except Failure OpenFields := do
  let values ← (Value.mapping facts.inputValues).toJson
  .ok
    [("name", facts.name.verbatim), ("inputs", (Value.mapping facts.inputs).verbatim),
     ("envOutputs", (Value.list facts.envOutputs).verbatim),
     ("artifacts", (Value.mapping facts.artifacts).verbatim),
     ("description", facts.description.verbatim), ("inputValues", .ok values)]

/-- What the record of a job is made of. -/
structure JobParts where
  executor : Json
  steps : List StepRecord
  outputs : List (Value × Value)
  inputs : List Value
  needs : List Value
  env : List (Value × Value)
  envFrom : List Json
  condition : Value
  continueOnError : Value
  retry : Json
  timeout : Json
  info : Option OpenFields

namespace JobRecord

def ofParts (parts : JobParts) : Except Failure JobRecord :=
  Checked.finish "JobRecord" do
    let outputs ← Checked.textMap "outputs" parts.outputs
    let inputs ← Checked.texts "inputs" parts.inputs
    let needs ← Checked.texts "needs" parts.needs
    let env ← Checked.textMap "env" parts.env
    let condition ← Checked.optionalText [.field "condition"] parts.condition
    let continueOnError ← Checked.truth [.field "continue_on_error"] parts.continueOnError
    return { executor := parts.executor, steps := parts.steps, outputs := outputs,
             inputs := inputs, needs := needs, env := env, envFrom := parts.envFrom,
             condition := condition, continueOnError := continueOnError, retry := parts.retry,
             timeout := parts.timeout, info := parts.info }

/-- What the declaration of a job tells. -/
def facts (info : JobInfo) : Except Failure JobFacts := do
  .ok
    { name := info.name, inputs := ← schemaEntries info.inputs,
      envOutputs := info.envOutputs.map .text, artifacts := Value.namedEntries info.artifacts,
      description := info.description, inputValues := Value.namedEntries info.inputValues }

def ofJob (job : Job) : Except Failure JobRecord := do
  -- what cannot become plain data fails before any field is looked at
  let info ← job.info.mapM fun info => do (← facts info).fields
  let executor ← job.executor.toJson
  let steps ← job.steps.mapM StepRecord.ofStep
  let envFrom ← listToJson job.envFrom
  let retry ← job.retry.toJson
  let timeout ← job.timeout.toJson
  ofParts
    { executor := executor, steps := steps, outputs := Value.namedEntries job.outputs,
      inputs := job.inputs, needs := job.needs, env := Value.namedEntries job.env,
      envFrom := envFrom, condition := job.condition, continueOnError := job.continueOnError,
      retry := retry, timeout := timeout, info := info }

/-- The record as plain data. -/
def toJson (r : JobRecord) : Except Failure Json := do
  let executor ← checkDepth r.executor
  let steps ← r.steps.mapM StepRecord.toJson
  let envFrom ← r.envFrom.mapM checkDepth
  let retry ← checkDepth r.retry
  let timeout ← checkDepth r.timeout
  let info ← openToJson r.info
  .ok (.object
    [("executor", executor), ("steps", .array steps),
     ("outputs", Json.ofTextMap r.outputs), ("inputs", Json.ofTexts r.inputs),
     ("needs", Json.ofTexts r.needs), ("env", Json.ofTextMap r.env),
     ("envFrom", .array envFrom), ("condition", Json.ofText? r.condition),
     ("continueOnError", .bool r.continueOnError), ("retry", retry), ("timeout", timeout),
     ("meta", info)])

/-- The records of the jobs of a workflow, in order. -/
def ofEntries : List (String × Job) → Except Failure (List (String × JobRecord))
  | [] => .ok []
  | (name, job) :: rest => do
    let r ← ofJob job
    .ok ((name, r) :: (← ofEntries rest))

end JobRecord

/-! ## Records of workflows -/

namespace WorkflowRecord

/-- The jobs of a record, under names which must be texts. -/
def keyedJobs : List (Value × JobRecord) → Checked (List (String × JobRecord))
  | [] => ⟨[], []⟩
  | (k, job) :: rest => do
    let k' ← Checked.key "jobs" k
    return (k', job) :: (← keyedJobs rest)

def ofParts (name : Value) (env : List (Value × Value)) (jobs : List (Value × JobRecord)) :
    Except Failure WorkflowRecord :=
  Checked.finish "WorkflowRecord" do
    let name ← Checked.text [.field "name"] name
    let env ← Checked.textMap "env" env
    return { name := name, env := env, jobs := OrderedMap.ofList (← keyedJobs jobs) }

def ofWorkflow (workflow : Workflow) : Except Failure WorkflowRecord := do
  let jobs ← JobRecord.ofEntries workflow.jobs.entries
  ofParts workflow.name (Value.namedEntries workflow.env) (jobs.map fun e => (.text e.1, e.2))

/-- The record as plain data. -/
def toJson (r : WorkflowRecord) : Except Failure Json := do
  let jobs ← r.jobs.entries.mapM fun e => return (e.1, ← e.2.toJson)
  .ok (.object
    [("name", .text r.name), ("env", Json.ofTextMap r.env), ("jobs", .object jobs)])

/-- The first width that is too large for an indent. -/
def widthLimit : Nat := 0x10000000000000000

/-- The width of the indent that a value says; the absent value says that the text is compact. -/
def widthOf : Value → Except Failure (Option Nat)
  | .null => .ok none
  | .bool b => .ok (some b.toNat)
  | .int i =>
    if i < 0 then .error (.raised "OverflowError" "can't convert negative int to unsigned")
    else if i < widthLimit then .ok (some i.toNat)
    else .error (.raised "OverflowError" "int too big to convert")
  | v =>
    .error (.unsuitable ("argument 'indent': '" ++ v.kindName
      ++ "' object cannot be interpreted as an integer"))

def toText (r : WorkflowRecord) (indent : Option Nat) : Except Failure String := do
  .ok ((← r.toJson).render indent)

end WorkflowRecord

def Workflow.toJsonText (workflow : Workflow) (indent : Option Nat) : Except Failure String := do
  (← WorkflowRecord.ofWorkflow workflow).toText indent

end ShellFlow

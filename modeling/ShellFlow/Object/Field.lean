import ShellFlow.Object.Basic
import ShellFlow.Path

/-!
# Fields of objects

What an object has under a name, and how it is read where a list or a mapping is expected. An
instance of any structure can stand in the place of a step or a job, because nobody asks for more
than the fields.
-/

namespace ShellFlow.Object

/-! ## Parts of steps and jobs -/

def ofNamed (m : OrderedMap String Value) : Object := .value (.mapping (Value.namedEntries m))

def ofNames (names : List String) : Object := .value (.tuple (names.map .text))

/-- The mapping of declared inputs to their types. -/
def ofSchema (schema : Schema) : Object :=
  ofMapping (schema.entries.map fun e => (.text e.1, .type e.2))

/-- What an action knew about a step. -/
def ofActionInfo (info : ActionInfo) : Object :=
  ofStruct 0 "ActionMeta"
    [("name", .value info.name), ("action_name", .value info.actionName),
     ("inputs", ofSchema info.inputs), ("outputs", ofNames info.outputs),
     ("description", .value info.description), ("input_values", ofNamed info.inputValues)]

/-- The declaration of a job. -/
def ofJobInfo (info : JobInfo) : Object :=
  ofStruct 0 "JobMeta"
    [("name", .value info.name), ("inputs", ofSchema info.inputs),
     ("env_outputs", ofNames info.envOutputs), ("artifacts", ofNamed info.artifacts),
     ("description", .value info.description), ("input_values", ofNamed info.inputValues)]

/-- The object of something that may be absent. -/
def ofOption {α : Type} (f : α → Object) : Option α → Object
  | some a => f a
  | none => .value .null

/-! ## Fields -/

def typeFields (t : InputType) : List (String × Object) :=
  match t.stray with
  | some s => s.parts.map fun p => (p.1, .value p.2)
  | none =>
    [("name", .value t.name), ("kind", .value (.text t.kind.text)),
     ("runtime_validate", .value (.text t.runtimeCheck)), ("default", .value t.default),
     ("inner", ofOption .type t.inner), ("allowed", ofNames t.allowed)]

def stepFields (s : Step) : List (String × Object) :=
  [("name", .value s.name), ("run", .value s.run),
   ("exports", ofNamed (s.exports.map fun _ v => .text v)),
   ("packages", .value (.tuple s.packages)),
   ("condition", .value s.condition), ("env", ofNamed s.env),
   ("action", ofOption ofActionInfo s.action)]

def jobFields (j : Job) (steps : List Object) : List (String × Object) :=
  [("name", .value j.name), ("executor", .value j.executor), ("steps", ofTuple steps),
   ("outputs", ofNamed j.outputs), ("inputs", .value (.tuple j.inputs)),
   ("needs", .value (.tuple j.needs)), ("env", ofNamed j.env),
   ("env_from", .value (.tuple j.envFrom)), ("condition", .value j.condition),
   ("continue_on_error", .value j.continueOnError), ("retry", .value j.retry),
   ("timeout", .value j.timeout), ("meta", ofOption ofJobInfo j.info),
   ("env_outputs", ofNames j.envOutputs)]

/-- The steps of a job template as an object; those that are not all steps are listed apart. -/
def templateSteps (source : StepSource) (steps : List Object) : Object :=
  match source, steps with
  | .computed _, _ => .function
  | .fixed fixed, [] => ofTuple (fixed.map .step)
  | .fixed _, steps => ofTuple steps

def templateFields (t : JobTemplate) (steps : List Object) : List (String × Object) :=
  [("name", .value t.name), ("steps", templateSteps t.steps steps), ("inputs", ofSchema t.inputs),
   ("env_outputs", ofNames t.envOutputs), ("artifacts", ofNamed t.artifacts),
   ("artifact_inputs", .value (.tuple t.artifactInputs)), ("needs", .value (.tuple t.needs)),
   ("env", ofNamed t.env), ("env_from", .value (.tuple t.envFrom)),
   ("executor", .value t.executor), ("condition", .value t.condition),
   ("continue_on_error", .value t.continueOnError), ("retry", .value t.retry),
   ("timeout", .value t.timeout), ("description", .value t.description)]

def valueFields : Value → List (String × Object)
  | .path s => [("name", .value (.text (Path.ofText s).name))]
  | .reference r => r.fields.map fun f => (f.1, .value (.text f.2))
  | .struct _ _ fields => fields.map fun f => (f.1, .value f.2)
  | _ => []

def fields : Object → List (String × Object)
  | .value v => valueFields v
  | .type t => typeFields t
  | .action a =>
    [("name", .value a.name), ("run", .value a.run), ("inputs", ofSchema a.inputs),
     ("outputs", ofNames a.outputs), ("packages", .value (.tuple a.packages)),
     ("description", .value a.description)]
  | .step s => stepFields s
  | .template _ t steps => templateFields t steps
  | .job j => jobFields j (j.steps.map .step)
  | .mixedJob j steps => jobFields j steps
  | .workflow w =>
    [("name", .value w.name),
     ("jobs", .mapping (w.jobs.entries.map fun e => (.text e.1, .job e.2))), ("env", ofNamed w.env)]
  | .mixedWorkflow name jobs env =>
    [("name", .value name), ("jobs", .mapping jobs), ("env", ofNamed env)]
  | .struct _ _ fields => fields
  | .accepted o =>
    [("workflow", o), ("job", .value .null), ("issues", .value (.list [])),
     ("title", .value (.text Verdict.defaultTitle)), ("ok", .value (.bool true))]
  | .rejected title name issues =>
    [("workflow", .value .null), ("job", .value name), ("issues", ofList (issues.map (.failure 0))),
     ("title", .value (.text title)), ("ok", .value (.bool false))]
  | .failure _ e =>
    e.fields.map (fun f => (f.1, .value f.2))
      ++ (e.issues?.map fun issues => ("issues", ofList (issues.map (.failure 0)))).toList
  | .mapping _ | .list _ | .tuple _ | .function => []

def field (name : String) (o : Object) : Except Failure Object :=
  match o.fields.lookup name with
  | some a => .ok a
  | none => o.lacks name

def valueOf (name : String) (o : Object) : Except Failure Value := do
  .ok (← o.field name).asValue

/-- The name of an object that has one. -/
def nameOf (o : Object) : Except Failure Label := o.valueOf "name"

/-! ## Lists -/

/-- The items of an object that has items. -/
def items : Object → Except Failure (List Object)
  | .list items | .tuple items => .ok items
  | .value v => do .ok ((← v.items).map .value)
  | .mapping entries => .ok (entries.map fun e => .value e.1)
  | .workflow w => .ok (w.jobs.keys.map fun key => .value (.text key))
  | .mixedWorkflow _ jobs _ => .ok (jobs.map fun e => .value e.1)
  | o => o.refuse "iterable"

/-- The items of an object, from the last to the first. -/
def reversedItems (o : Object) : Except Failure (List Object) :=
  match o.items with
  | .ok items => .ok items.reverse
  | .error _ => o.refuse "reversible"

def values (o : Object) : Except Failure (List Value) := do .ok ((← o.items).map asValue)

/-- What an object stands for in a list of steps: itself if it is a step, or else its items. -/
def entry : Object → Except Failure (Entry Object)
  | .step s => .ok (.single (.step s))
  | o => do .ok (.several (← o.items))

/-- True if a value is among the items of an object. -/
def holds (v : Value) : Object → Except Failure Bool
  | .value (.text s) =>
    match v with
    | .text part => .ok ((s.splitOn part).length > 1 || part.isEmpty)
    | v =>
      .error (.unsuitable
        ("'in <string>' requires string as left operand, not " ++ v.kindName))
  | .value (.bytes _) =>
    .error (.unsuitable ("a bytes-like object is required, not '" ++ v.kindName ++ "'"))
  | o =>
    match o.values with
    | .ok values => .ok (values.any v.same)
    | .error _ =>
      .error (.unsuitable ("argument of type '" ++ o.kindName ++ "' is not iterable"))

/-! ## Mappings -/

/-- The entries of an object that is a mapping. -/
def entries? : Object → Option (List (Value × Object))
  | .mapping entries => some entries
  | .value (.mapping entries) => some (entries.map fun e => (e.1, .value e.2))
  | _ => none

/-- The failure of asking for an operation that only mappings have; a field of that name cannot be
called either. -/
def lacksMethod {α : Type} (method : String) (o : Object) : Except Failure α :=
  match o.fields.lookup method with
  | some a => a.refuse "callable"
  | none => o.lacks method

/-- The entries of an object that must be a mapping. -/
def pairs (o : Object) : Except Failure (List (Value × Object)) :=
  match o.entries? with
  | some entries => .ok entries
  | none => o.lacksMethod "items"

/-- What stands under a key of an object that must be a mapping; nothing is the absent value. -/
def valueUnder (key : Value) (o : Object) : Except Failure Object :=
  match o.entries? with
  | some entries => .ok (((entries.find? fun e => key.same e.1).map Prod.snd).getD (.value .null))
  | none => o.lacksMethod "get"

/-- The entries of an object that is read as a mapping of values. -/
def toEntries (o : Object) : Except Failure (List (Value × Value)) :=
  match o.entries? with
  | some entries => .ok (entries.map fun e => (e.1, e.2.asValue))
  | none => do Value.insertPairs 0 [] (← o.values)

/-! ## Changes -/

/-- The mark, the kind and the fields of an instance of a structure. -/
def struct? : Object → Option (Nat × String × List (String × Object))
  | .value (.struct mark kind fields) =>
    some (mark, kind, fields.map fun f => (f.1, .value f.2))
  | .struct mark kind fields => some (mark, kind, fields)
  | _ => none

def changedFields (changes fields : List (String × Object)) : List (String × Object) :=
  fields.map fun f => (f.1, (changes.lookup f.1).getD f.2)

/-- An instance of a structure with some of its fields changed; it must have them. -/
def withFields (changes : List (String × Object)) (o : Object) : Except Failure Object :=
  match o.struct? with
  | none => .error (.unsuitable "replace() should be called on dataclass instances")
  | some (mark, kind, fields) =>
    match changes.find? fun c => !fields.any fun f => f.1 == c.1 with
    | some c =>
      .error (.unsuitable
        (kind ++ ".__init__() got an unexpected keyword argument " ++ Text.quoted c.1))
    | none => .ok (ofStruct mark kind (changedFields changes fields))

def withName (name : Label) : Object → Except Failure Object
  | .type t => .ok (.type { t with name := name })
  | .action a => .ok (.action { a with name := name })
  | .step s => .ok (.step { s with name := name })
  | .template mark t steps => .ok (.template mark { t with name := name } steps)
  | .job j => .ok (.job { j with name := name })
  | .mixedJob j steps => .ok (.mixedJob { j with name := name } steps)
  | .workflow w => .ok (.workflow (Workflow.ofJobs name w.jobs w.env))
  | .mixedWorkflow _ jobs env => .ok (.mixedWorkflow name jobs env)
  | .failure mark (.invalidName owner _ what) => .ok (.failure mark (.invalidName owner name what))
  | .value (.reference (.envVar old)) =>
    .ok (.value (.reference (.envVar (name.text?.getD old))))
  | o => o.withFields [("name", .value name)]

/-- The environment of an object that has one. -/
def envOf (o : Object) : Except Failure (List (Value × Value)) := do
  (← o.field "env").toEntries

def namedOnly (entries : List (Value × Value)) : OrderedMap String Value :=
  OrderedMap.ofList (entries.filterMap fun e => e.1.text?.map fun key => (key, e.2))

/-- An object with another environment. -/
def withEnv (env : List (Value × Value)) : Object → Except Failure Object
  | .step s => .ok (.step { s with env := namedOnly env })
  | .template mark t steps => .ok (.template mark { t with env := namedOnly env } steps)
  | .job j => .ok (.job { j with env := namedOnly env })
  | .mixedJob j steps => .ok (.mixedJob { j with env := namedOnly env } steps)
  | .workflow w => .ok (.workflow (Workflow.ofJobs w.name w.jobs (namedOnly env)))
  | .mixedWorkflow name jobs _ => .ok (.mixedWorkflow name jobs (namedOnly env))
  | o => o.withFields [("env", .value (.mapping env))]

/-! ## Fields of a step -/

theorem nameOf_step (s : Step) : (Object.step s).nameOf = .ok s.name := rfl

theorem field_action_step (s : Step) :
    (Object.step s).field "action" = .ok (ofOption ofActionInfo s.action) := rfl

end ShellFlow.Object

import ShellFlow.Object.Checks
import ShellFlow.Object.Transfer

/-!
# Extensions of objects

An extension does not ask what it is given. On workflows it is an extension as it stands in
pipelines; any other object, among them the mixed workflows, it may still change or refuse in its
own way.

## Main statements

* `applyAll_workflow`: on a workflow a list of extensions is the pipeline of them.
* `makeWorkflow_map_job`: of jobs and nothing else a workflow is made as without other objects.
-/

namespace ShellFlow

namespace Object

/-- What an extension has returned. -/
def ofReturned : Returned → Object
  | .workflow w => .workflow w
  | .other v => .value v

/-- An object that an extension of workflows returns. Such an object is a workflow or a value. -/
def returned : Object → Returned
  | .workflow w => .workflow w
  | .value v => .other v
  | o => .other (.text o.kindName)

end Object

/-- An extension that can be given any object. -/
structure ObjectExtension where
  /-- What it is on workflows. -/
  extension : Extension
  /-- What it makes of any other object. -/
  onOther : Object → Traced Object

namespace ObjectExtension

/-! ## Kinds of extensions -/

/-- A check or a change of objects, which is `strict` on workflows. -/
def ofPass (strict : Extension) (run : Object → Except Failure Object) : ObjectExtension where
  extension := strict
  onOther := fun o => .ofExcept (run o)

/-- A function on objects; without a name it goes by `Extension.defaultName`. -/
def ofFunction (name : String) (run : Object → Except Failure Object) : ObjectExtension :=
  .ofPass (.ofFunction name fun w => (run (.workflow w)).map Object.returned) run

/-- Something that returns a value, whatever it is given. -/
def constant (name : String) (v : Value) : ObjectExtension :=
  .ofPass ⟨name, fun _ => .ok (.other v)⟩ fun _ => .ok (.value v)

/-- The check of the input values. -/
def types : ObjectExtension := .ofPass Validation.typeExtension Object.validateTypes

/-- The check of the references. -/
def stepRefs : ObjectExtension := .ofPass Validation.stepRefExtension Object.validateStepRefs

/-- Both checks. -/
def full : ObjectExtension := .ofPass Validation.fullExtension Object.validate

def transferEnv (transfer : EnvTransfer) : ObjectExtension :=
  .ofPass transfer.asExtension (Object.transferEnv transfer)

/-! ## Application -/

def run (e : ObjectExtension) : Object → Traced Object
  | .workflow w => (e.extension.run w).bind fun r => .ok (.ofReturned r)
  | o => e.onOther o

/-- Applies an extension, which must return a workflow. -/
def apply (e : ObjectExtension) : Object → Traced Object
  | .workflow w => (e.extension.apply w).bind fun w => .ok (.workflow w)
  | o => do
    let name ← Traced.ofExcept o.nameOf
    Traced.log ("applying extension " ++ e.extension.name ++ " to workflow '"
      ++ name.display ++ "'")
    let r ← e.onOther o
    if r.isWorkflow then Traced.ok r
    else
      Traced.fail (.badExtension (.text e.extension.name)
        (.text ("must return a Workflow, got " ++ r.kindName)))

def applyAll : List ObjectExtension → Object → Traced Object
  | [], o => .ok o
  | e :: rest, o => (e.apply o).bind (applyAll rest)

def pipeline (extensions : List ObjectExtension) : ObjectExtension where
  extension := (Pipeline.mk (extensions.map extension)).asExtension
  onOther := applyAll extensions

theorem applyAll_workflow (extensions : List ObjectExtension) (w : Workflow) :
    applyAll extensions (.workflow w) =
      (Pipeline.applyAll (extensions.map extension) w).bind fun w => .ok (.workflow w) := by
  induction extensions generalizing w with
  | nil => rfl
  | cons e rest ih =>
    simp only [applyAll, apply, List.map_cons, Pipeline.apply_cons, Traced.bind_assoc,
      Traced.ok_bind]
    congr
    funext w'
    exact ih w'

end ObjectExtension

namespace Object

/-- Makes a workflow of an object that must be a mapping of jobs, and applies the extensions. -/
def makeWorkflow (jobs : Object) (name : Label) (extensions : List ObjectExtension)
    (env : OrderedMap String Value) : Traced Object :=
  let make (jobs : Option Jobs) (extensions : List Extension) : Traced Object :=
    (Workflow.make name jobs extensions env).bind fun w => .ok (.workflow w)
  match jobs.entries? with
  | none => make none []
  | some entries =>
    match entries.mapM namedJob? with
    | some jobs => make (some (OrderedMap.ofList jobs)) (extensions.map (·.extension))
    | none => do
      -- a name is asked for before the jobs are looked at
      let _ ← make (some ∅) []
      Traced.ofExcept (checkArtifacts entries)
      ObjectExtension.applyAll extensions (← Traced.ofExcept (ofJobs name entries env))

theorem makeWorkflow_map_job (jobs : List (String × Job)) (name : Label)
    (extensions : List ObjectExtension) (env : OrderedMap String Value) :
    makeWorkflow (.mapping (jobs.map fun e => (.text e.1, .job e.2))) name extensions env =
      (Workflow.make name (some (OrderedMap.ofList jobs)) (extensions.map (·.extension)) env).bind
        fun w => .ok (.workflow w) := by
  simp only [makeWorkflow, entries?, mapM_map_job]

end Object

end ShellFlow

import ShellFlow.Traced
import ShellFlow.Workflow

/-!
# Extensions and pipelines

An extension is a named function on workflows. A pipeline applies its extensions in order, each to
what the one before has returned; it stops at the first that fails or returns something else than a
workflow. A pipeline is an extension itself, so pipelines can be nested.

## Main statements

* `apply_cons`, `apply_append`: applying a pipeline is a left fold over its extensions.
* `result_cons`, `result_ofPass_pair`: the result of a pipeline, from those of its extensions.
-/

namespace ShellFlow

/-- What an extension returns: a workflow, or some other value. -/
inductive Returned where
  | workflow (w : Workflow)
  | other (v : Value)

/-- A named function on workflows. -/
structure Extension where
  name : String
  run : Workflow → Traced Returned

namespace Extension

/-- The name of a function that has no name of its own. -/
def defaultName : String := "function"

/-- A function as an extension; without a name it goes by `defaultName`. -/
def ofFunction (name : String) (run : Workflow → Except Failure Returned) : Extension where
  name := if name.isEmpty then defaultName else name
  run := fun workflow => .ofExcept (run workflow)

/-- A check or a change of workflows as an extension. -/
def ofPass (name : String) (run : Workflow → Except Failure Workflow) : Extension where
  name := name
  run := fun workflow => .ofExcept ((run workflow).map .workflow)

/-- Applies an extension, which must return a workflow. -/
def apply (extension : Extension) (workflow : Workflow) : Traced Workflow := do
  Traced.log ("applying extension " ++ extension.name ++ " to workflow '"
    ++ workflow.name.display ++ "'")
  match ← extension.run workflow with
  | .workflow w => Traced.ok w
  | .other v =>
    Traced.fail (.badExtension (.text extension.name)
      (.text ("must return a Workflow, got " ++ v.kindName)))

theorem result_ofPass (name : String) (run : Workflow → Except Failure Workflow)
    (workflow : Workflow) : ((ofPass name run).apply workflow).result = run workflow := by
  show (Traced.bind _ _).result = _
  unfold ofPass Traced.log Traced.ofExcept
  cases h : run workflow with
  | error e => simp [Traced.bind, bind, Except.map, h]
  | ok w => simp [Traced.bind, bind, Except.map, h, Traced.ok]

end Extension

/-- Extensions that are applied one after another. -/
structure Pipeline where
  extensions : List Extension

namespace Pipeline

/-- The pipeline with one more extension at its end. -/
def andThen (pipeline : Pipeline) (extension : Extension) : Pipeline :=
  ⟨pipeline.extensions ++ [extension]⟩

def applyAll : List Extension → Workflow → Traced Workflow
  | [], workflow => Traced.ok workflow
  | extension :: rest, workflow => (extension.apply workflow).bind (applyAll rest)

/-- Applies the extensions in order. -/
def apply (pipeline : Pipeline) (workflow : Workflow) : Traced Workflow :=
  applyAll pipeline.extensions workflow

def asExtension (pipeline : Pipeline) : Extension where
  name := "Pipeline"
  run := fun workflow => (pipeline.apply workflow).bind fun w => Traced.ok (.workflow w)

theorem apply_cons (extension : Extension) (rest : List Extension) (workflow : Workflow) :
    applyAll (extension :: rest) workflow = (extension.apply workflow).bind (applyAll rest) := rfl

theorem apply_append (first second : List Extension) (workflow : Workflow) :
    applyAll (first ++ second) workflow = (applyAll first workflow).bind (applyAll second) := by
  induction first generalizing workflow with
  | nil => rfl
  | cons extension rest ih =>
    simp only [List.cons_append, apply_cons, Traced.bind_assoc]
    congr
    funext w
    exact ih w

theorem result_cons (extension : Extension) (rest : List Extension) (workflow : Workflow) :
    (applyAll (extension :: rest) workflow).result =
      ((extension.apply workflow).result >>= fun w => (applyAll rest w).result) := by
  rw [apply_cons, Traced.result_bind]
  rfl

theorem result_ofPass_pair (first second : String) (f g : Workflow → Except Failure Workflow)
    (workflow : Workflow) :
    (applyAll [.ofPass first f, .ofPass second g] workflow).result = (f workflow >>= g) := by
  have hsecond : ∀ w, (applyAll [.ofPass second g] w).result = g w := by
    intro w
    rw [result_cons, Extension.result_ofPass]
    cases g w with
    | error e => rfl
    | ok v => rfl
  rw [result_cons, Extension.result_ofPass]
  simp only [hsecond]

end Pipeline

namespace Workflow

/-- Makes a workflow and applies the extensions to it. It needs a name, the jobs must be a mapping
(`none` stands for something else), and artifact names must be unique before the extensions run. -/
def make (name : Label) (jobs : Option Jobs) (extensions : List Extension)
    (env : OrderedMap String Value) : Traced Workflow :=
  if !name.isTruthy then .fail (.invalidArgument "Workflow name cannot be empty")
  else
    match jobs with
    | none => .fail (.invalidArgument "jobs must be a mapping of job name -> Job")
    | some jobs =>
      (Traced.ofExcept (checkArtifacts jobs)).bind fun _ =>
        Pipeline.applyAll extensions (ofJobs name jobs env)

end Workflow

end ShellFlow

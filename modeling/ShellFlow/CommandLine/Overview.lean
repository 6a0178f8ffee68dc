import ShellFlow.CommandLine.Session
import ShellFlow.Workflow

/-!
# Overviews

What a workflow is made of, printed job by job: the executor, what the job is connected with, and
its steps. What a job needs and takes has to be texts; the lines before one that is none stay.

## Main statements

* `errors_workflow`: an overview writes nothing to the error stream.
-/

namespace ShellFlow.Overview

def print (lines : List String) : Session Unit := Session.say (.print lines)

/-- A labelled list, left out if it is empty. -/
def wiring (label : String) (values : List Value) : Session Unit :=
  if values.isEmpty then Session.ok ()
  else do
    let texts ← Session.ofExcept (Value.joinedTexts 0 values)
    print [label ++ ": " ++ ", ".intercalate texts]

/-- What stands in the place of its action for a step that only runs a script. -/
def scriptKind : Label := .text "sh"

/-- A step at position `i`: its name, its kind, which is its action, and its condition. -/
def stepText (i : Nat) (name kind : Label) (condition : Value) : String :=
  let suffix := if condition.isTruthy then " [if " ++ condition.display ++ "]" else ""
  "  " ++ toString i ++ ". " ++ name.display ++ " (" ++ kind.display ++ ")" ++ suffix

def stepLine (i : Nat) (step : Step) : String :=
  let kind := match step.action with
    | some info => info.actionName
    | none => scriptKind
  stepText i step.name kind step.condition

/-- The steps from position `i` on. -/
def stepLines (i : Nat) : List Step → List String
  | [] => []
  | step :: rest => stepLine i step :: stepLines (i + 1) rest

/-- A job: its executor, what it is connected with, and its steps. -/
def job (name : String) (job : Job) : Session Unit := do
  print ["", "JOB: " ++ name, "Executor: " ++ job.executor.display]
  wiring "Needs" job.needs
  wiring "Env outputs" (job.envOutputs.map .text)
  wiring "Artifacts" (job.outputs.keys.map .text)
  wiring "Artifact inputs" job.inputs
  print (stepLines 0 job.steps)

/-- The jobs of a list, one after another. -/
def jobs : List (String × Job) → Session Unit
  | [] => Session.ok ()
  | (name, j) :: rest => (job name j).bind fun _ => jobs rest

def workflow (workflow : Workflow) : Session Unit := do
  Session.say (.header ("Workflow: " ++ workflow.name.display))
  jobs workflow.jobs.entries

/-! ## What an overview writes to -/

theorem errors_bind {α β : Type} {x : Session α} {f : α → Session β} (hx : x.report.errors = [])
    (hf : ∀ a, (f a).report.errors = []) : (x.bind f).report.errors = [] := by
  obtain ⟨report, result⟩ := x
  cases result with
  | error stop => exact hx
  | ok a =>
    show report.errors ++ (f a).report.errors = []
    rw [hf a, List.append_nil]
    exact hx

theorem errors_wiring (label : String) (values : List Value) :
    (wiring label values).report.errors = [] := by
  unfold wiring
  split
  · rfl
  · refine errors_bind ?_ fun _ => rfl
    cases Value.joinedTexts 0 values <;> rfl

theorem errors_job (name : String) (j : Job) : (job name j).report.errors = [] :=
  errors_bind rfl fun _ => errors_bind (errors_wiring _ _) fun _ =>
    errors_bind (errors_wiring _ _) fun _ => errors_bind (errors_wiring _ _) fun _ =>
      errors_bind (errors_wiring _ _) fun _ => rfl

theorem errors_jobs (l : List (String × Job)) : (jobs l).report.errors = [] := by
  induction l with
  | nil => rfl
  | cons e rest ih => exact errors_bind (errors_job e.1 e.2) fun _ => ih

theorem errors_workflow (w : Workflow) : (workflow w).report.errors = [] :=
  errors_bind rfl fun _ => errors_jobs _

end ShellFlow.Overview

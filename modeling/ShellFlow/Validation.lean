import ShellFlow.JobTemplate
import ShellFlow.Pipeline
import ShellFlow.Value.Mapping

/-!
# Validation

Two checks of a workflow. The type check looks at the input values of every action step: a required
input must have a value, and a value that is no reference must have the declared type. The reference
check looks at the references to step outputs in those values: each must name a step of the same
job, and no two action steps of a job may write the same variables.

The issues of a job are collected; the first job with an issue is the one that is reported.
-/

namespace ShellFlow

/-- The outcome of a check. -/
inductive Verdict where
  | accepted (workflow : Workflow)
  | rejected (title : String) (job : Label) (issues : List Failure)

namespace Verdict

/-- The title under which the outcome of a type check goes, and every good outcome. -/
def defaultTitle : String := "Validation error"

/-- The failure of a bad outcome; a job whose name counts as false goes without a name. -/
def failure (title : String) (job : Label) (issues : List Failure) : Failure :=
  .validation (.text title) (if job.isTruthy then job else .text "") issues

/-- The workflow of a good outcome. -/
def unwrap : Verdict → Except Failure Workflow
  | .accepted workflow => .ok workflow
  | .rejected title job issues => .error (failure title job issues)

end Verdict

namespace Validation

/-! ## The type check -/

/-- The issue of one input of the step at position `i`, if it has one. -/
def inputIssue (job : Label) (i : Nat) (info : ActionInfo) (input : String) (t : InputType) :
    Except Failure (Option Failure) :=
  match (info.inputValues.get? input).getD .null with
  -- an input without a value and one with the absent value are the same here
  | .null => do
    match ← t.defaultOf with
    | some _ => .ok none
    | none =>
      .ok (some (.missingRequiredInput info.actionName (.text input) (.text "action") (.int i)))
  | value => do
    if ← t.accepts value then .ok none
    else .ok (some (.typeMismatch job (.int i) info.actionName (.text input) t.name))

/-- The issues of some inputs of the step at position `i`. -/
def inputIssues (job : Label) (i : Nat) (info : ActionInfo) :
    List (String × InputType) → Except Failure (List Failure)
  | [] => .ok []
  | (input, t) :: rest => do
    let issue ← inputIssue job i info input t
    let issues ← inputIssues job i info rest
    .ok (issue.toList ++ issues)

/-- The type issues of the steps of a job, which stand at the positions from `i` on. -/
def typeIssuesFrom (job : Label) (i : Nat) : List Step → Except Failure (List Failure)
  | [] => .ok []
  | step :: rest => do
    let here ←
      match step.action with
      | none => .ok []
      | some info => inputIssues job i info info.inputs.entries
    .ok (here ++ (← typeIssuesFrom job (i + 1) rest))

def typeIssues (name : Label) (job : Job) : Except Failure (List Failure) :=
  typeIssuesFrom name 0 job.steps

/-! ## The reference check -/

/-- The steps that a value refers to, at any depth of lists and tuples. -/
def referredSteps (value : Value) : List String :=
  value.leaves.filterMap fun
    | .reference (.stepOutput step _) => some step
    | _ => none

/-- The reference issues of one step at position `i`. -/
def stepRefIssues (job : Label) (names : List String) (i : Nat) (info : ActionInfo) :
    List Failure :=
  info.inputValues.entries.flatMap fun e =>
    ((referredSteps e.2).filter fun step => !names.contains step).map fun step =>
      .unknownStepReference job info.name (.text step) (.text e.1) (.int i)

/-- The reference issues of the steps of a job, which stand at the positions from `i` on. -/
def refIssuesFrom (job : Label) (names : List String) (i : Nat) : List Step → List Failure
  | [] => []
  | step :: rest =>
    (match step.action with
      | none => []
      | some info => stepRefIssues job names i info)
    ++ refIssuesFrom job names (i + 1) rest

/-- The reference issues of a job: collisions first, then references to steps that it
does not have. -/
def refIssues (name : Label) (job : Job) : Except Failure (List Failure) := do
  let collisions ← nameCollisions name job.steps
  for step in job.steps do
    step.name.checkFixed
  let names := job.steps.filterMap fun step => step.name.text?
  .ok (collisions ++ refIssuesFrom name names 0 job.steps)

/-! ## The checks as extensions -/

/-- The first job that has issues, with its issues. -/
def firstRejection (issuesOf : Label → Job → Except Failure (List Failure)) :
    List (String × Job) → Except Failure (Option (Label × List Failure))
  | [] => .ok none
  | (name, job) :: rest => do
    let issues ← issuesOf (.text name) job
    if issues.isEmpty then firstRejection issuesOf rest else .ok (some (.text name, issues))

/-- The outcome of a check of every job. -/
def check (title : String) (issuesOf : Label → Job → Except Failure (List Failure))
    (workflow : Workflow) : Except Failure Verdict := do
  match ← firstRejection issuesOf workflow.jobs.entries with
  | none => .ok (.accepted workflow)
  | some (job, issues) => .ok (.rejected title job issues)

/-- Checks the input values of all action steps. -/
def checkTypes (workflow : Workflow) : Except Failure Verdict :=
  check Verdict.defaultTitle typeIssues workflow

/-- The title under which the outcome of a reference check goes. -/
def refTitle : String := "Reference error"

/-- Checks the references to step outputs, and the names of the action steps. -/
def checkStepRefs (workflow : Workflow) : Except Failure Verdict :=
  check refTitle refIssues workflow

/-- The workflow, if its input values pass. -/
def validateTypes (workflow : Workflow) : Except Failure Workflow := do
  (← checkTypes workflow).unwrap

/-- The workflow, if its references pass. -/
def validateStepRefs (workflow : Workflow) : Except Failure Workflow := do
  (← checkStepRefs workflow).unwrap

/-- The workflow, if its input values and then its references pass. -/
def validate (workflow : Workflow) : Except Failure Workflow := do
  validateStepRefs (← validateTypes workflow)

def typeExtension : Extension := .ofPass "validation" validateTypes

/-- The reference check as an extension. -/
def stepRefExtension : Extension := .ofPass "validate_step_refs" validateStepRefs

/-- Both checks as an extension. -/
def fullExtension : Extension := .ofPass "full_validation" validate

end Validation

end ShellFlow

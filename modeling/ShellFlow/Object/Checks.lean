import ShellFlow.Object.Jobs

/-!
# Checks of objects

The checks of any object that stands for a workflow. Of a workflow they are those of the workflow.
Of anything else the fields are looked up one by one, in the order in which a check needs them, and
the first that is missing is the failure of the check.

## Main statements

* `checkTypes_workflow`, `validate_workflow`: of a workflow they are those of the workflow.
-/

namespace ShellFlow.Object

/-! ## The type check -/

/-- Whether an object in the place of a type accepts a value. -/
def accepts (v : Value) : Object → Except Failure Bool
  | .type t => t.accepts v
  | o => o.lacksMethod "eval_validate"

/-- True of an object in the place of a type under which an input may be left out. -/
def hasDefault (o : Object) : Except Failure Bool := do
  .ok (!(← o.valueOf "default").isNoDefault)

/-- The issue of one input of what made the step at position `i`, if it has one. -/
def inputIssue (job : Label) (i : Nat) (info : Object) (input : Value × Object) :
    Except Failure (Option Failure) := do
  let value ← (← info.field "input_values").valueUnder input.1
  match value.asValue with
  | .null =>
    if ← input.2.hasDefault then .ok none
    else
      .ok (some (.missingRequiredInput (← info.valueOf "action_name") input.1 (.text "action")
        (.int i)))
  | v =>
    if v.isReference then .ok none
    else if ← input.2.accepts v then .ok none
    else
      .ok (some (.typeMismatch job (.int i) (← info.valueOf "action_name") input.1
        (← input.2.nameOf)))

/-- The issues of some inputs of what made the step at position `i`. -/
def inputIssues (job : Label) (i : Nat) (info : Object) :
    List (Value × Object) → Except Failure (List Failure)
  | [] => .ok []
  | input :: rest => do
    let issue ← inputIssue job i info input
    .ok (issue.toList ++ (← inputIssues job i info rest))

/-- The type issues of objects that stand for steps, at the positions from `i` on. -/
def typeIssuesFrom (job : Label) (i : Nat) : List Object → Except Failure (List Failure)
  | [] => .ok []
  | o :: rest => do
    let info ← o.field "action"
    let here ←
      if info.isNull then .ok []
      else do inputIssues job i info (← (← info.field "inputs").pairs)
    .ok (here ++ (← typeIssuesFrom job (i + 1) rest))

/-- The type issues of an object that stands for a job. -/
def typeIssues (name : Label) (o : Object) : Except Failure (List Failure) := do
  typeIssuesFrom name 0 (← (← o.field "steps").items)

/-! ## The reference check -/

/-- The issues of the references in the values of what made the step at position `i`. -/
def valueRefIssues (job : Label) (names : List Value) (i : Nat) (info : Object) :
    List (Value × Object) → Except Failure (List Failure)
  | [] => .ok []
  | (input, o) :: rest => do
    let here ← (Validation.referredSteps o.asValue).filterMapM fun step => do
      if names.any (Value.text step).same then .ok none
      else .ok (some (.unknownStepReference job (← info.nameOf) (.text step) input (.int i)))
    .ok (here ++ (← valueRefIssues job names i info rest))

/-- The reference issues of objects that stand for steps, at the positions from `i` on. -/
def refIssuesFrom (job : Label) (names : List Value) (i : Nat) :
    List Object → Except Failure (List Failure)
  | [] => .ok []
  | o :: rest => do
    let info ← o.field "action"
    let here ←
      if info.isNull then .ok []
      else do valueRefIssues job names i info (← (← info.field "input_values").pairs)
    .ok (here ++ (← refIssuesFrom job names (i + 1) rest))

/-- The name of an object, which must be of a kind that never changes. -/
def fixedName (o : Object) : Except Failure Label := do
  let name ← o.nameOf
  name.checkFixed
  .ok name

/-- The reference issues of an object that stands for a job. -/
def refIssues (name : Label) (o : Object) : Except Failure (List Failure) := do
  let steps ← (← o.field "steps").items
  let issues ← collisions name steps
  let names ← steps.mapM fixedName
  .ok (issues ++ (← refIssuesFrom name names 0 steps))

/-! ## The checks -/

/-- The first job that has issues, with its issues. -/
def firstRejection (issuesOf : Label → Object → Except Failure (List Failure)) :
    List (Value × Object) → Except Failure (Option (Label × List Failure))
  | [] => .ok none
  | (key, o) :: rest => do
    let issues ← issuesOf key o
    if issues.isEmpty then firstRejection issuesOf rest else .ok (some (key, issues))

/-- The outcome of a check of any object. -/
def check (strict : Workflow → Except Failure Verdict) (title : String)
    (issuesOf : Label → Object → Except Failure (List Failure)) (o : Object) :
    Except Failure Object :=
  match o with
  | .workflow w => (strict w).map ofVerdict
  | o => do
    match ← firstRejection issuesOf (← o.jobsOf) with
    | none => .ok (.accepted o)
    | some (owner, issues) => .ok (.rejected title owner issues)

/-- Checks the input values of all action steps. -/
def checkTypes (o : Object) : Except Failure Object :=
  check Validation.checkTypes Verdict.defaultTitle typeIssues o

/-- Checks the references to step outputs, and the names of the action steps. -/
def checkStepRefs (o : Object) : Except Failure Object :=
  check Validation.checkStepRefs Validation.refTitle refIssues o

/-- What was checked, if the outcome is good. -/
def unwrap : Object → Except Failure Object
  | .accepted o => .ok o
  | .rejected title owner issues => .error (Verdict.failure title owner issues)
  | o => o.lacksMethod "unwrap"

/-- An object that must pass the check of the input values. -/
def validateTypes (o : Object) : Except Failure Object := do (← o.checkTypes).unwrap

/-- An object that must pass the check of the references. -/
def validateStepRefs (o : Object) : Except Failure Object := do (← o.checkStepRefs).unwrap

/-- An object that must pass both checks. -/
def validate (o : Object) : Except Failure Object := do (← o.validateTypes).validateStepRefs

/-! ## Workflows of jobs and steps only -/

theorem checkTypes_workflow (w : Workflow) :
    checkTypes (.workflow w) = (Validation.checkTypes w).map ofVerdict := rfl

theorem unwrap_ofVerdict (v : Verdict) :
    unwrap (ofVerdict v) = v.unwrap.map .workflow := by
  cases v <;> rfl

theorem validateTypes_workflow (w : Workflow) :
    validateTypes (.workflow w) = (Validation.validateTypes w).map .workflow := by
  simp only [validateTypes, Validation.validateTypes, checkTypes_workflow]
  cases Validation.checkTypes w with
  | error e => rfl
  | ok v => exact unwrap_ofVerdict v

theorem validateStepRefs_workflow (w : Workflow) :
    validateStepRefs (.workflow w) = (Validation.validateStepRefs w).map .workflow := by
  simp only [validateStepRefs, Validation.validateStepRefs]
  show ((Validation.checkStepRefs w).map ofVerdict >>= unwrap) = _
  cases Validation.checkStepRefs w with
  | error e => rfl
  | ok v => exact unwrap_ofVerdict v

theorem validate_workflow (w : Workflow) :
    validate (.workflow w) = (Validation.validate w).map .workflow := by
  simp only [validate, Validation.validate, validateTypes_workflow]
  cases Validation.validateTypes w with
  | error e => rfl
  | ok w => exact validateStepRefs_workflow w

end ShellFlow.Object

import ShellFlow.JobTemplate
import ShellFlow.Proofs.Success

/-!
# Compilations of jobs

Defining a template and making the job of a call are rows of computations, each of which may fail.
Theorems about templates and their jobs start from what is said here of a success, and do not unfold
the rows.

* **`compile_eq_ok_iff`** — a call is accepted exactly if there is a `Compilation` of it.
* **`compile_of_resolve_eq_error`** and those after it — where a call can fail.
* **`define_eq_ok`** — what a template has passed that is defined.
-/

namespace ShellFlow.JobTemplate

/-- The values that a call gives to inputs. The reserved names are for the job. -/
def given (invocation : Invocation) : Invocation :=
  invocation.filter fun key _ => !reservedKeys.contains key

/-- The job of a template with the given parts. What the call adds to a list comes behind what the
template has, repetitions included. -/
def jobOf (template : JobTemplate) (resolved : Invocation) (steps : List Step) (executor : Value)
    (needs artifactInputs : List Value) : Job where
  name := template.name
  executor := executor
  steps := steps
  outputs := template.artifacts
  inputs := template.artifactInputs ++ artifactInputs
  needs := template.needs ++ needs
  env := template.env
  envFrom := template.envFrom
  condition := template.condition
  continueOnError := template.continueOnError
  retry := template.retry
  timeout := template.timeout
  info := some
    { name := template.name
      inputs := template.inputs
      envOutputs := template.envOutputs
      artifacts := template.artifacts
      description := template.description
      inputValues := resolved }

/-- What an accepted call of a template has computed. -/
structure Compilation (template : JobTemplate) (invocation : Invocation) where
  resolved : Invocation
  steps : List Step
  executor : Value
  needs : List Value
  artifactInputs : List Value
  resolve_eq : Invocation.resolve template.name template.inputs (given invocation) "job" = .ok resolved
  steps_eq : template.stepsFor resolved = .ok steps
  collisions_eq : nameCollisions template.name steps = .ok []
  executor_eq : template.executorFor invocation = .ok executor
  needs_eq : added invocation "needs" = .ok needs
  artifactInputs_eq : added invocation "artifact_inputs" = .ok artifactInputs

variable {template : JobTemplate} {invocation : Invocation}

/-! ## Calls that are accepted -/

def Compilation.job (c : Compilation template invocation) : Job :=
  template.jobOf c.resolved c.steps c.executor c.needs c.artifactInputs

/-- A call is accepted exactly if all its computations succeed, and the job is made of their
results. Theorems about accepted calls start from here. -/
theorem compile_eq_ok_iff {job : Job} :
    template.compile invocation = .ok job ↔ ∃ c : Compilation template invocation, job = c.job := by
  constructor
  · intro h
    obtain ⟨⟨made, steps⟩, hmade, h⟩ := Success.bind_eq_ok.mp h
    cases h
    obtain ⟨resolved, hresolve, h⟩ := Success.bind_eq_ok.mp hmade
    obtain ⟨_, hsteps, h⟩ := Success.bind_eq_ok.mp h
    obtain ⟨collisions, hcollisions, h⟩ := Success.bind_eq_ok.mp h
    cases collisions with
    -- a job with a collision is refused
    | cons collision more => cases h
    | nil =>
      obtain ⟨executor, hexecutor, h⟩ := Success.bind_eq_ok.mp h
      obtain ⟨needs, hneeds, h⟩ := Success.bind_eq_ok.mp h
      obtain ⟨artifactInputs, hinputs, h⟩ := Success.bind_eq_ok.mp h
      cases h
      exact ⟨⟨resolved, steps, executor, needs, artifactInputs, hresolve, hsteps, hcollisions,
        hexecutor, hneeds, hinputs⟩, rfl⟩
  · rintro ⟨c, rfl⟩
    have hresolve := c.resolve_eq
    unfold given at hresolve
    simp only [compile, compileWith, hresolve, c.steps_eq, c.collisions_eq, c.executor_eq, c.needs_eq,
      c.artifactInputs_eq, bind, Except.bind]
    rfl

/-! ## Calls that fail -/

section

variable {resolved : Invocation} {steps : List Step} {e : Failure}

/-- The first stage: what is wrong with the inputs is reported before anything else is looked at. -/
theorem compile_of_resolve_eq_error
    (h : Invocation.resolve template.name template.inputs (given invocation) "job" = .error e) :
    template.compile invocation = .error e := by
  unfold given at h
  simp only [compile, compileWith, h]
  rfl

variable (hresolve :
  Invocation.resolve template.name template.inputs (given invocation) "job" = .ok resolved)

include hresolve

/-- The second stage: the failure of the function that makes the steps. -/
theorem compile_of_stepsFor_eq_error (hsteps : template.stepsFor resolved = .error e) :
    template.compile invocation = .error e := by
  unfold given at hresolve
  simp only [compile, compileWith, hresolve, hsteps, bind, Except.bind]

/-- The third stage: all collisions of the steps are reported at once. -/
theorem compile_of_nameCollisions (hsteps : template.stepsFor resolved = .ok steps)
    {issues : List Failure} (hscan : nameCollisions template.name steps = .ok issues)
    (hissues : issues ≠ []) :
    template.compile invocation =
      .error (.validation (.text "Name collision") template.name issues) := by
  have hsome : issues.isEmpty = false := List.isEmpty_eq_false_iff.mpr hissues
  unfold given at hresolve
  simp only [compile, compileWith, hresolve, hsteps, hscan, hsome, bind, Except.bind]
  rfl

/-- The fourth stage: the executor is looked at only if nothing collides. -/
theorem compile_of_executorFor_eq_error (hsteps : template.stepsFor resolved = .ok steps)
    (hscan : nameCollisions template.name steps = .ok [])
    (hexecutor : template.executorFor invocation = .error e) :
    template.compile invocation = .error e := by
  unfold given at hresolve
  simp only [compile, compileWith, hresolve, hsteps, hscan, hexecutor, bind, Except.bind]
  rfl

end

/-! ## Definitions -/

/-- A template that is defined has the declared inputs, none of which has a reserved name, and its
lists are read from the given ones. -/
theorem define_eq_ok {template' : JobTemplate} {lists : Lists}
    (h : define template lists = .ok template') :
    (∀ key ∈ reservedKeys, key ∉ template.inputs.keys)
    ∧ (∃ names, lists.envOutputs.items = .ok names
        ∧ checkNames template.name names (.text "env output") = .ok template'.envOutputs)
    ∧ template' =
        { template with
          envOutputs := template'.envOutputs
          artifactInputs := template'.artifactInputs
          needs := template'.needs
          envFrom := template'.envFrom } := by
  unfold define at h
  split at h
  · cases h
  · dsimp only at h
    split at h
    · rename_i hclash
      obtain ⟨names, hnames, h⟩ := Success.bind_eq_ok.mp h
      obtain ⟨envOutputs, houtputs, h⟩ := Success.bind_eq_ok.mp h
      obtain ⟨_, _, h⟩ := Success.bind_eq_ok.mp h
      obtain ⟨_, _, h⟩ := Success.bind_eq_ok.mp h
      obtain ⟨_, _, h⟩ := Success.bind_eq_ok.mp h
      cases h
      refine ⟨fun key hkey hmem => ?_, ⟨names, hnames, houtputs⟩, rfl⟩
      rw [List.isEmpty_iff, List.filter_eq_nil_iff] at hclash
      exact hclash key hkey (decide_eq_true hmem)
    · cases h

end ShellFlow.JobTemplate

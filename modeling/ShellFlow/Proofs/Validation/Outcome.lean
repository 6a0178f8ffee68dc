import ShellFlow.Proofs.Validation.Issues
import ShellFlow.Proofs.Validation.Passes

/-!
# The outcome of a validation

Validation makes two passes over the jobs, and each stops at the first job with an issue. So the
types of every job are looked at before the references of any, and one failure reports all issues of
one kind of one job.

* **`validate_outcome`** — the outcome of a validation for every workflow.
-/

namespace ShellFlow.Validation

/-- **What validation comes to, for jobs that can be checked.** It gives the workflow itself exactly
if every job is sound. If the input values of some job are unsound, it reports the type issues of
the first such job; if only references are, the reference issues of the first job in which they are.
The types of all jobs are checked before any reference is, which is why the second report asks for
sound types everywhere and not just in the jobs before. -/
theorem validate_outcome {w : Workflow} (hw : ∀ e ∈ w.jobs.entries, Checkable e.2) :
    (validate w = .ok w ↔ ∀ e ∈ w.jobs.entries, TypesSound e.2 ∧ RefsSound e.2)
    ∧ ((∃ e ∈ w.jobs.entries, ¬ TypesSound e.2) →
        ∃ key job, FirstUnsound TypesSound w.jobs.entries key job
          ∧ validate w = .error
              (rejection "Validation error" key (typeViolations (.text key) job)))
    ∧ ((∀ e ∈ w.jobs.entries, TypesSound e.2) → (∃ e ∈ w.jobs.entries, ¬ RefsSound e.2) →
        ∃ key job, FirstUnsound RefsSound w.jobs.entries key job
          ∧ validate w = .error
              (rejection "Reference error" key (refViolations (.text key) job))) := by
  have htypes : ∀ e ∈ w.jobs.entries, typeIssues (.text e.1) e.2 =
      .ok (typeViolations (.text e.1) e.2) := fun e he => typeIssues_eq (hw e he)
  have hrefs : ∀ e ∈ w.jobs.entries, refIssues (.text e.1) e.2 =
      .ok (refViolations (.text e.1) e.2) := fun e he => refIssues_eq (hw e he)
  have htypesPass : validateTypes w = .ok w ↔ ∀ e ∈ w.jobs.entries, TypesSound e.2 :=
    pass_eq_self_iff htypes fun _ _ => typeViolations_eq_nil_iff
  have hrefsPass : validateStepRefs w = .ok w ↔ ∀ e ∈ w.jobs.entries, RefsSound e.2 :=
    pass_eq_self_iff hrefs fun _ _ => refViolations_eq_nil_iff
  refine ⟨?_, ?_, ?_⟩
  · rw [validate_eq_ok_iff, htypesPass, hrefsPass]
    exact ⟨fun h e he => ⟨h.2.1 e he, h.2.2 e he⟩,
      fun h => ⟨rfl, fun e he => (h e he).1, fun e he => (h e he).2⟩⟩
  · intro hunsound
    obtain ⟨key, job, hfirst⟩ := exists_firstUnsound hunsound
    refine ⟨key, job, hfirst, ?_⟩
    unfold validate validateTypes checkTypes
    rw [pass_of_firstUnsound htypes (fun _ _ => typeViolations_eq_nil_iff) hfirst]
    rfl
  · intro hsound hunsound
    obtain ⟨key, job, hfirst⟩ := exists_firstUnsound hunsound
    refine ⟨key, job, hfirst, ?_⟩
    -- the type check lets the workflow through, so it is the reference check that fails
    unfold validate
    rw [htypesPass.mpr hsound]
    exact pass_of_firstUnsound hrefs (fun _ _ => refViolations_eq_nil_iff) hfirst

/-! ## A workflow with an unknown reference -/

def stepsJob (name : String) (steps : List Step) : Job where
  name := .text name
  executor := .text "local"
  steps := steps
  outputs := ∅
  inputs := []
  needs := []
  env := ∅
  envFrom := []
  condition := .null
  continueOnError := .bool false
  retry := .null
  timeout := .null
  info := none

/-- A step of a call whose inputs are texts. -/
def textStep (name : String) (values : List (String × Value)) : Step :=
  { Step.plain (.text name) (.text "") with
    action := some
      { name := .text name
        actionName := .text name
        inputs := OrderedMap.ofList (values.map fun e => (e.1, InputType.string))
        outputs := []
        description := .text ""
        inputValues := OrderedMap.ofList values } }

/-- A step that takes the tag from another step. -/
def tagStep : Step := textStep "use-tag" [("tag", .reference (.stepOutput "make" "tag"))]

/-- Two jobs, of which the second mentions a step that only the first has. -/
def tagWorkflow : Workflow where
  name := .text "tags"
  jobs := OrderedMap.ofList
    [("build", stepsJob "build" [Step.plain (.text "make") (.text "make"), tagStep]),
      ("test", stepsJob "test" [tagStep])]
  env := ∅
  named := by
    intro e he
    rcases List.mem_cons.mp he with rfl | he
    · rfl
    · cases List.mem_singleton.mp he
      rfl

/-- The names of the example are texts, and its action declares no inputs of odd types. -/
theorem checkable_tagWorkflow : ∀ e ∈ tagWorkflow.jobs.entries, Checkable e.2 := by
  have hstep : ∀ e ∈ tagWorkflow.jobs.entries, ∀ step ∈ e.2.steps,
      step = Step.plain (.text "make") (.text "make") ∨ step = tagStep := by
    intro e he step hstep
    rcases List.mem_cons.mp he with rfl | he
    · simpa [stepsJob] using hstep
    · cases List.mem_singleton.mp he
      exact Or.inr (List.mem_singleton.mp hstep)
  intro e he
  refine ⟨?_, ?_, ?_⟩
  · intro step hmem
    rcases hstep e he step hmem with rfl | rfl <;> rfl
  · intro step hmem _
    rcases hstep e he step hmem with rfl | rfl <;> exact ⟨_, rfl⟩
  · intro step hmem info haction input hinput
    rcases hstep e he step hmem with rfl | rfl
    · cases haction
    · cases haction
      cases List.mem_singleton.mp hinput
      exact ⟨rfl, fun v => ⟨v.isText, rfl⟩⟩

/-- Both jobs mention the step, but only the first has it, so the second is the first unsound job.
Its reference error is reported. -/
theorem validate_tagWorkflow :
    (∀ e ∈ tagWorkflow.jobs.entries, Checkable e.2)
    ∧ ∃ key job, FirstUnsound RefsSound tagWorkflow.jobs.entries key job
        ∧ validate tagWorkflow = .error
            (rejection "Reference error" key (refViolations (.text key) job)) := by
  refine ⟨checkable_tagWorkflow, (validate_outcome checkable_tagWorkflow).2.2 ?_ ?_⟩
  · intro e he
    refine (@typeViolations_eq_nil_iff (.text e.1) e.2).mp ?_
    rcases List.mem_cons.mp he with rfl | he
    · rfl
    · cases List.mem_singleton.mp he
      rfl
  · refine ⟨_, List.mem_cons_of_mem _ List.mem_cons_self, fun h => ?_⟩
    cases (@refViolations_eq_nil_iff (.text "test") _).mpr h

end ShellFlow.Validation

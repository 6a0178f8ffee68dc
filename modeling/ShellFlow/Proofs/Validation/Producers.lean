import ShellFlow.Proofs.Action.Exports
import ShellFlow.Proofs.Validation.Outcome

/-!
# Producers of references

An input value may mention an output of a step, and the script then reads the variable of that
output. Validation asks that the job has a step of the name. It does not ask that the step comes
before the one that mentions it, nor that it has the output.

* **`refsSound_of_validate`** — what validation promises for the references of every job.
* **`validate_producer`** — the step that a reference names, and the variable that it writes if it
  has the output.
* **`buildWorkflow_without_producers`** — an accepted workflow in which no reference has an earlier
  step that writes it.
-/

namespace ShellFlow.Validation

/-- Some step before position `i` has the name and exports the output. -/
def HasEarlierProducer (job : Job) (i : Nat) (target output : String) : Prop :=
  ∃ j t, j < i ∧ job.steps[j]? = some t ∧ t.name = .text target ∧ output ∈ t.exports.keys

/-- A workflow that the reference pass lets through has sound references in every job. -/
theorem refsSound_of_validateStepRefs {w w' : Workflow} (h : validateStepRefs w = .ok w') :
    ∀ e ∈ w.jobs.entries, RefsSound e.2 := by
  intro e he
  have hissues := (validateStepRefs_eq_ok_iff.mp h).2 e he
  have hviolations := (refIssues_eq_ok_iff.mp hissues).2.2
  exact refViolations_eq_nil_iff.mp hviolations.symm

/-- So has one that passes both checks, as the reference pass is one of them. -/
theorem refsSound_of_validate {w w' : Workflow} (h : validate w = .ok w') :
    ∀ e ∈ w.jobs.entries, RefsSound e.2 :=
  refsSound_of_validateStepRefs (validate_eq_ok_iff.mp h).2.2

/-- **Every output of a step that occurs in an input value of an accepted workflow is one of a step
of the same job**, at some position; nothing asks for an earlier one. If that step was compiled from
an action, it exports the output exactly if the action declares it, and then under the variable that
the reference stands for. The first half is the soundness that the reference pass has checked; the
second is a fact about compiled steps that validation has no part in. -/
theorem validate_producer {w w' : Workflow} (h : validate w = .ok w') {key : String} {job : Job}
    (hjob : (key, job) ∈ w.jobs.entries) {i : Nat} {step : Step} {info : ActionInfo}
    (hstep : job.steps[i]? = some step) (haction : step.action = some info)
    {input target output : String} {v : Value} (hv : (input, v) ∈ info.inputValues.entries)
    (hoccurs : OccursIn (.stepOutput target output) v) :
    (∃ (j : Nat) (t : Step), job.steps[j]? = some t ∧ t.name = .text target)
    ∧ ∀ (j : Nat) (t : Step), job.steps[j]? = some t → t.name = .text target →
        ∀ (action : Action) (invocation : Invocation) (carry : CarryChannel),
          action.compile invocation carry = .ok t →
          t.exports.get? output =
            if output ∈ action.outputs then some (Reference.stepOutput target output).var
            else none := by
  constructor
  · have hsound : RefsSound job := refsSound_of_validate h (key, job) hjob
    have hmem : step ∈ job.steps := List.mem_of_getElem? hstep
    obtain ⟨t, ht, hname⟩ := hsound.known step hmem info haction (input, v) hv target output hoccurs
    obtain ⟨j, hj⟩ := List.getElem?_of_mem ht
    exact ⟨j, t, hj, hname⟩
  · intro j t _ hname action invocation carry hcompile
    obtain ⟨c, rfl⟩ := Action.compile_eq_ok_iff.mp hcompile
    exact c.get?_exported hname output

/-! ## References without a producer -/

/-- A step that mentions an output of a shell command, and an output of a step that comes later. -/
def imageStep : Step :=
  textStep "use-image"
    [("path", .reference (.stepOutput "fetch" "path")),
      ("tag", .reference (.stepOutput "make" "tag"))]

/-- A command, a step that mentions outputs, and the step that has one of them. -/
def buildJob : Job :=
  stepsJob "build"
    [Step.plain (.text "fetch") (.text "fetch"), imageStep, (Action.oneOutputCall "make" "tag").step]

def buildWorkflow : Workflow where
  name := .text "builds"
  jobs := OrderedMap.ofList [("build", buildJob)]
  env := ∅
  named := by
    intro e he
    cases List.mem_singleton.mp he
    rfl

theorem validate_buildWorkflow : validate buildWorkflow = .ok buildWorkflow := rfl

/-- The first reference is to a step that comes before and has no outputs, the second to one that
comes after. -/
theorem buildWorkflow_without_producers :
    validate buildWorkflow = .ok buildWorkflow
    ∧ ("build", buildJob) ∈ buildWorkflow.jobs.entries
    ∧ buildJob.steps[1]? = some imageStep
    ∧ ∃ info, imageStep.action = some info
        ∧ ("path", Value.reference (.stepOutput "fetch" "path")) ∈ info.inputValues.entries
        ∧ ("tag", Value.reference (.stepOutput "make" "tag")) ∈ info.inputValues.entries
        ∧ ¬ HasEarlierProducer buildJob 1 "fetch" "path"
        ∧ ¬ HasEarlierProducer buildJob 1 "make" "tag" := by
  refine ⟨validate_buildWorkflow, List.mem_singleton_self _, rfl, _, rfl, ?_, ?_, ?_, ?_⟩
  · exact List.mem_cons_self
  · exact List.mem_cons_of_mem _ List.mem_cons_self
  · rintro ⟨j, t, hj, ht, -, houtput⟩
    -- the only step before is the command, which exports nothing
    have hzero : j = 0 := by omega
    subst hzero
    cases ht
    cases houtput
  · rintro ⟨j, t, hj, ht, hname, -⟩
    have hzero : j = 0 := by omega
    subst hzero
    cases ht
    exact absurd (Value.text.inj hname) (by decide)

/-- The second reference has a producer after all, which comes later and writes its variable. -/
theorem validate_producer_make :
    validate buildWorkflow = .ok buildWorkflow
    ∧ OccursIn (.stepOutput "make" "tag") (.reference (.stepOutput "make" "tag"))
    ∧ (∃ (j : Nat) (t : Step), buildJob.steps[j]? = some t ∧ t.name = .text "make")
    ∧ ∃ t, buildJob.steps[2]? = some t ∧ t.name = .text "make"
        ∧ t.exports.get? "tag" = some (Reference.stepOutput "make" "tag").var := by
  have htag : ("tag", Value.reference (.stepOutput "make" "tag")) ∈
      (OrderedMap.ofList
        [("path", Value.reference (.stepOutput "fetch" "path")),
          ("tag", .reference (.stepOutput "make" "tag"))]).entries :=
    List.mem_cons_of_mem _ List.mem_cons_self
  have hcompile : (Action.oneOutput "make" "tag").compile ∅ =
      .ok (Action.oneOutputCall "make" "tag").step :=
    Action.compile_eq_ok_iff.mpr ⟨_, rfl⟩
  obtain ⟨hnamed, hproducer⟩ := @validate_producer _ _ validate_buildWorkflow "build" buildJob
    (List.mem_singleton_self _) 1 imageStep _ rfl rfl "tag" "make" "tag" _ htag .here
  have hexports := hproducer 2 _ rfl rfl _ _ _ hcompile
  exact ⟨validate_buildWorkflow, .here, hnamed, _, rfl, rfl, hexports⟩

end ShellFlow.Validation

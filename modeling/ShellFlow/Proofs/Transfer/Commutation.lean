import ShellFlow.Proofs.Transfer.Jobs
import ShellFlow.Proofs.Validation.Outcome
import ShellFlow.Proofs.Validation.Relocation

/-!
# Validation before and after the env transfer

The transfer puts a step in front of a job and another one behind it. No action has made these steps,
so validation has nothing to say about them, and it does not matter whether it comes before the
transfer or after it, if no reference goes to one of the two steps. Only the positions that are
reported are later by one where a step has come in front.

* **`relocates_extend`** — the steps of the jobs after the transfer.
* **`sameOutcome_of_apply`** — what validation says before and after the transfer.
* **`validation_comm`** — the two orders of validation and transfer.
-/

namespace ShellFlow.EnvTransfer

open Validation

/-- No input value mentions a step that the transfer adds. -/
def Unmentioned (job : Job) : Prop :=
  ¬ Mentions job importStepName ∧ ¬ Mentions job exportStepName

/-- How many steps the transfer puts in front of those of a job. -/
def importCount (w : Workflow) : Label → Nat
  | .text key =>
    match w.jobs.get? key with
    | some job => if neededProducers job (producerNames w.jobs) = [] then 0 else 1
    | none => 0
  | _ => 0

/-- How many steps come in front of a job that the workflow has: one if it needs a producer. -/
theorem importCount_of_get? {w : Workflow} {key : String} {job : Job}
    (h : w.jobs.get? key = some job) :
    importCount w (.text key) =
      if neededProducers job (producerNames w.jobs) = [] then 0 else 1 := by
  simp only [importCount, h]

/-- **What the transfer makes of a job is the job between plain steps.** The two steps are no
actions, and no input of the job mentions their names, which is all that validation asks about steps
in front and behind. -/
theorem Extends.surrounds {transfer : EnvTransfer} {name : String} {needed : List String}
    {job job' : Job} (h : Extends transfer name needed job job') (hjob : Unmentioned job) :
    Surrounds (if needed = [] then [] else [transfer.importStep needed])
      (if job.envOutputs = [] then [] else [transfer.exportStep name job]) job job' := by
  have hadded : ∀ step ∈ (if needed = [] then [] else [transfer.importStep needed])
      ++ (if job.envOutputs = [] then [] else [transfer.exportStep name job]),
      step = transfer.importStep needed ∨ step = transfer.exportStep name job := by
    intro step hstep
    rcases List.mem_append.mp hstep with hfront | hback
    · split at hfront
      · cases hfront
      · exact Or.inl (List.mem_singleton.mp hfront)
    · split at hback
      · cases hback
      · exact Or.inr (List.mem_singleton.mp hback)
  refine ⟨h.steps, ?_, ?_⟩
  · intro step hstep
    rcases hadded step hstep with rfl | rfl <;> rfl
  · intro step hstep
    rcases hadded step hstep with rfl | rfl
    · exact ⟨importStepName, rfl, hjob.1⟩
    · exact ⟨exportStepName, rfl, hjob.2⟩

/-- The transferred workflow is the workflow with its jobs surrounded, each by its own number of
steps. -/
theorem relocates_extend (transfer : EnvTransfer) {w : Workflow}
    (hjobs : ∀ e ∈ w.jobs.entries, Unmentioned e.2) :
    Relocates (importCount w) w (transfer.extend w) := by
  refine ⟨transfer.transformJob (producerNames w.jobs), jobs_extend transfer w, ?_⟩
  intro e he
  have hget : w.jobs.get? e.1 = some e.2 := OrderedMap.get?_eq_some_iff.mpr he
  refine ⟨_, _, (extends_transformJob transfer hget).surrounds (hjobs e he), ?_⟩
  rw [importCount_of_get? hget]
  split
  · rfl
  · rfl

/-! ## The two orders

Both orders are pipelines of two passes, so their results are binds of the two functions. -/

def checkedFirst (transfer : EnvTransfer) (w : Workflow) : Except Failure Workflow :=
  (Pipeline.applyAll [fullExtension, transfer.asExtension] w).result

def checkedLast (transfer : EnvTransfer) (w : Workflow) : Except Failure Workflow :=
  (Pipeline.applyAll [transfer.asExtension, fullExtension] w).result

/-- Validation says the same of a workflow and of what the transfer has made of it. -/
structure SameOutcome (transfer : EnvTransfer) (w w' : Workflow) : Prop where
  accepted : validate w = .ok w ↔ validate w' = .ok w'
  /-- The same issues of the same job are reported, at positions that are later by one if a step has
  come in front of the job. -/
  rejected : ∀ title name issues, outcome w = .ok (.rejected title name issues) →
    ∃ key job needed, name = .text key ∧ w.jobs.get? key = some job
      ∧ NeededInOrder w.jobs job.needs needed
      ∧ transfer.checkedFirst w = .error (rejection title key issues)
      ∧ transfer.checkedLast w = .error (rejection title key
          (if needed = [] then issues else issues.map (Failure.later 1)))
  /-- A check that breaks off does so in both orders. -/
  brokenOff : ∀ e, outcome w = .error e →
    transfer.checkedFirst w = .error e ∧ transfer.checkedLast w = .error e

/-- Validation as a pass of the pipeline, then the transfer: the trace of the pipeline does not
matter for its result. -/
theorem checkedFirst_eq (transfer : EnvTransfer) (w : Workflow) :
    transfer.checkedFirst w = (validate w >>= transfer.apply) :=
  Pipeline.result_ofPass_pair _ _ _ _ w

theorem checkedLast_eq (transfer : EnvTransfer) (w : Workflow) :
    transfer.checkedLast w = (transfer.apply w >>= validate) :=
  Pipeline.result_ofPass_pair _ _ _ _ w

/-- If the transfer can be made, validation has the last word. -/
theorem checkedLast_of_apply {transfer : EnvTransfer} {w w' : Workflow}
    (h : transfer.apply w = .ok w') : transfer.checkedLast w = validate w' := by
  rw [checkedLast_eq, h]
  rfl

/-- If validation fails first, the transfer is never made. -/
theorem checkedFirst_of_error {transfer : EnvTransfer} {w : Workflow} {e : Failure}
    (h : validate w = .error e) : transfer.checkedFirst w = .error e := by
  rw [checkedFirst_eq, h]
  rfl

/-- The issues of the job of a name are moved if the job needs a producer. -/
theorem relocate_rejected {w w' : Workflow} {title key : String} {job : Job}
    (hjob : w.jobs.get? key = some job) (issues : List Failure) :
    relocate (importCount w) w' (.rejected title (.text key) issues) =
      .rejected title (.text key)
        (if neededProducers job (producerNames w.jobs) = [] then issues
          else issues.map (Failure.later 1)) := by
  rw [relocate, importCount_of_get? hjob]
  split
  · simp [funext Failure.later_zero]
  · rfl

/-- **The outcome of validation is moved, and nothing else.** By `outcome_relocates` the outcome for
the transferred workflow is that for the original one with its positions moved; the three cases are
an acceptance, a report on a job, and a check that breaks off. -/
theorem sameOutcome_of_apply {transfer : EnvTransfer} {w w' : Workflow}
    (hjobs : ∀ e ∈ w.jobs.entries, Unmentioned e.2) (hw' : transfer.apply w = .ok w') :
    SameOutcome transfer w w' := by
  have hrelocates : Relocates (importCount w) w w' := by
    obtain ⟨-, rfl⟩ := apply_eq_ok_iff.mp hw'
    exact relocates_extend transfer hjobs
  have houtcome := outcome_relocates hrelocates
  refine ⟨validate_relocates hrelocates, ?_, ?_⟩
  · intro title name issues hrejected
    obtain ⟨key, job, rfl, hjob⟩ := exists_job_of_outcome hrejected
    refine ⟨key, job, _, rfl, hjob, neededInOrder_neededProducers w.jobs job,
      checkedFirst_of_error (validate_of_rejected hrejected), ?_⟩
    rw [checkedLast_of_apply hw']
    refine validate_of_rejected ?_
    rw [houtcome, hrejected]
    exact congrArg Except.ok (relocate_rejected hjob issues)
  · intro e he
    have he' : outcome w' = .error e := by
      rw [houtcome, he]
      rfl
    rw [checkedLast_of_apply hw']
    exact ⟨checkedFirst_of_error (validate_of_error he), validate_of_error he'⟩

/-- **Validation and the transfer commute.** They give the same workflow in both orders, or none. If
the transfer can be made, validation says the same before and after it, up to the positions. No
input may mention one of the added steps: such a reference is unknown before the transfer and known
after it. -/
theorem validation_comm (transfer : EnvTransfer) {w : Workflow}
    (hjobs : ∀ e ∈ w.jobs.entries, Unmentioned e.2) :
    (∀ v, transfer.checkedFirst w = .ok v ↔ transfer.checkedLast w = .ok v)
    ∧ ∀ w', transfer.apply w = .ok w' → SameOutcome transfer w w' := by
  refine ⟨?_, fun w' hw' => sameOutcome_of_apply hjobs hw'⟩
  intro v
  rw [checkedFirst_eq, checkedLast_eq, Success.bind_eq_ok, Success.bind_eq_ok]
  -- a workflow comes out if validation lets through what the transfer starts from, or has made
  constructor
  · rintro ⟨checked, hchecked, hv⟩
    obtain ⟨rfl, -⟩ := validate_eq_ok_iff.mp hchecked
    exact ⟨v, hv, (sameOutcome_of_apply hjobs hv).accepted.mp hchecked⟩
  · rintro ⟨w', hw', hv⟩
    obtain ⟨rfl, -⟩ := validate_eq_ok_iff.mp hv
    exact ⟨w, (sameOutcome_of_apply hjobs hw').accepted.mpr hv, hw'⟩

/-! ## A workflow with an unknown reference in a job that needs another -/

/-- The second job takes over a tag from the first, but asks a step of its own for it. -/
def askingWorkflow : Workflow :=
  .ofJobs (.text "asking")
    (OrderedMap.ofList
      [("build", relayJob "build" []),
        ("test", { relayJob "test" [.text "build"] with steps := [tagStep] })]) ∅

/-- The issue of the step that asks for the tag. -/
def unknownMake (i : Int) : Failure :=
  .unknownStepReference (.text "test") (.text "use-tag") (.text "make") (.text "tag") (.int i)

/-- The unknown step is found at the first step of the second job. -/
theorem outcome_askingWorkflow :
    outcome askingWorkflow = .ok (.rejected "Reference error" (.text "test") [unknownMake 0]) :=
  rfl

/-- The only step that is mentioned is the one that is missing, so neither of the added ones. -/
theorem unmentioned_askingWorkflow : ∀ e ∈ askingWorkflow.jobs.entries, Unmentioned e.2 := by
  have hmentions : ∀ e ∈ askingWorkflow.jobs.entries, ∀ name, Mentions e.2 name → name = "make" := by
    rintro e he name ⟨step, hstep, info, haction, input, hinput, output, hoccurs⟩
    rcases List.mem_cons.mp he with rfl | he
    · -- the step of the first job has no inputs
      cases List.mem_singleton.mp hstep
      cases haction
      cases hinput
    · cases List.mem_singleton.mp he
      cases List.mem_singleton.mp hstep
      cases haction
      cases List.mem_singleton.mp hinput
      cases hoccurs
      rfl
  intro e he
  constructor
  · intro h
    exact absurd (hmentions e he importStepName h) (by decide)
  · intro h
    exact absurd (hmentions e he exportStepName h) (by decide)

/-- The second job takes its tag over from the first, so a step comes in front of the one that asks:
the same issue is reported one position later if validation comes last. -/
theorem validation_comm_askingWorkflow :
    (∀ e ∈ askingWorkflow.jobs.entries, Unmentioned e.2)
    ∧ EnvTransfer.checkedFirst {} askingWorkflow =
        .error (rejection "Reference error" "test" [unknownMake 0])
    ∧ EnvTransfer.checkedLast {} askingWorkflow =
        .error (rejection "Reference error" "test" [unknownMake 1]) := by
  have happly : EnvTransfer.apply {} askingWorkflow = .ok (EnvTransfer.extend {} askingWorkflow) := rfl
  obtain ⟨-, hcomm⟩ := validation_comm {} unmentioned_askingWorkflow
  obtain ⟨key, job, needed, hname, hjob, hneeded, hfirst, hlast⟩ :=
    (hcomm _ happly).rejected _ _ _ outcome_askingWorkflow
  cases hname
  cases hjob
  have hlist : needed = ["build"] :=
    hneeded.unique (neededInOrder_neededProducers askingWorkflow.jobs _) fun _ => Iff.rfl
  rw [hlist] at hlast
  exact ⟨unmentioned_askingWorkflow, hfirst, hlast⟩

end ShellFlow.EnvTransfer

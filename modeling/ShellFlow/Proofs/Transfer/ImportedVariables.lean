import ShellFlow.Proofs.Job.SharedVariables
import ShellFlow.Proofs.Transfer.Handover
import ShellFlow.Proofs.Workflow.Artifacts

/-!
# Variables that a job takes over

A job sources the files of all producers that it needs, one after another, into the same shell. The
variable of an env output is made of the sanitized name of the job and the sanitized name of the
output. The names of two jobs are distinct as they are written, but they may sanitize alike, and like
the variables of steps these variables do not tell where the name of the job ends. What is sourced last
then counts for both jobs.

* **`jobOutputVar_eq_iff`** — when two env outputs have one variable, for any names.
* **`imports_extend`** — the variable under which an env output is taken over.
* **`make_imports_iff`** — when a job of a validated workflow takes over two env outputs under one
  variable.
-/

namespace ShellFlow

/-- Env outputs of two jobs have one variable just when outputs of two steps with these names have. -/
theorem jobOutputVar_eq_iff {producer output producer' output' : String} :
    jobOutputVar producer output = jobOutputVar producer' output' ↔
      (sanitize producer = sanitize producer' ∧ sanitize output = sanitize output')
      ∨ Overlaps producer output producer' output' ∨ Overlaps producer' output' producer output := by
  have hjob : ∀ p o, (jobOutputVar p o).toList =
      "JOB_OUTPUT_".toList ++ (sanitize p ++ "_" ++ sanitize o).toList := by
    intro p o
    simp [jobOutputVar]
  have hstep : ∀ p o, (stepOutputVar p o).toList =
      "STEP_OUTPUT_".toList ++ (sanitize p ++ "_" ++ sanitize o).toList := by
    intro p o
    simp [stepOutputVar]
  -- behind their fronts both are the same
  rw [← stepOutputVar_eq_iff, ← String.toList_inj, ← String.toList_inj, hjob, hjob, hstep, hstep,
    List.append_right_inj, List.append_right_inj]

namespace Workflow

open EnvTransfer

/-- The job needs a job that has the env output. -/
def TakesOver (w : Workflow) (client producer output : String) : Prop :=
  ∃ consumer job, w.jobs.get? client = some consumer ∧ Value.text producer ∈ consumer.needs
    ∧ w.jobs.get? producer = some job ∧ output ∈ job.envOutputs

/-- The job begins with a step that sources the file of a producer, whose last step writes into the file
the env output under the variable. -/
def Imports (w : Workflow) (client producer output var : String) : Prop :=
  ∃ consumer job first last searched,
    w.jobs.get? client = some consumer ∧ w.jobs.get? producer = some job
    ∧ consumer.steps.head? = some first ∧ job.steps.getLast? = some last
    ∧ HasLine first.run ("  source " ++ Shell.quote (outputFile producer))
    ∧ WritesOutput last.run (Shell.quote (outputFile producer)) var output searched

/-! ## After the transfer -/

/-- A transfer leaves the needs and the declared outputs alone, so which job takes over what from
which does not change by it. -/
theorem takesOver_extend (transfer : EnvTransfer) {w : Workflow} {client producer output : String} :
    TakesOver (transfer.extend w) client producer output ↔ TakesOver w client producer output := by
  unfold TakesOver
  simp only [get?_extend, Option.map_eq_some_iff]
  constructor
  · rintro ⟨_, _, ⟨consumer, hconsumer, rfl⟩, hneed, ⟨job, hjob, rfl⟩, houtput⟩
    rw [needs_transformJob] at hneed
    rw [envOutputs_transformJob] at houtput
    exact ⟨consumer, job, hconsumer, hneed, hjob, houtput⟩
  · rintro ⟨consumer, job, hconsumer, hneed, hjob, houtput⟩
    refine ⟨_, _, ⟨consumer, hconsumer, rfl⟩, ?_, ⟨job, hjob, rfl⟩, ?_⟩
    · rw [needs_transformJob]
      exact hneed
    · rw [envOutputs_transformJob]
      exact houtput

/-- After a transfer, an env output that a job takes over arrives in the variable of its reference. -/
theorem imports_extend (transfer : EnvTransfer) {w : Workflow} {client producer output : String}
    (h : TakesOver w client producer output) :
    Imports (transfer.extend w) client producer output (jobOutputVar producer output) := by
  obtain ⟨consumer, job, hconsumer, hneed, hjob, houtput⟩ := h
  have houtputs : job.envOutputs ≠ [] := List.ne_nil_of_mem houtput
  have hneeded : producer ∈ neededProducers consumer (producerNames w.jobs) :=
    ((neededInOrder_neededProducers w.jobs consumer).mem_iff producer).mpr
      ⟨hneed, (isProducer_iff hjob).mpr houtputs⟩
  -- the import step is the first of the consumer, and the export step the last of the producer
  have hreads := extends_transformJob transfer hconsumer
  have hwrites := extends_transformJob transfer hjob
  refine ⟨transfer.transformJob (producerNames w.jobs) client consumer,
    transfer.transformJob (producerNames w.jobs) producer job,
    transfer.importStep (neededProducers consumer (producerNames w.jobs)),
    transfer.exportStep producer job, transfer.searchOrder job output, ?_, ?_, ?_, ?_,
    importStep_hasLine transfer hneeded, exportStep_writes transfer producer houtput⟩
  · rw [get?_extend, hconsumer]
    rfl
  · rw [get?_extend, hjob]
    rfl
  · rw [hreads.steps, if_neg (List.ne_nil_of_mem hneeded)]
    rfl
  · rw [hwrites.steps, if_neg houtputs, List.getLast?_append]
    rfl

/-! ## Validated workflows -/

/-- **When a workflow is made with validation and transfer.** Of the conditions none speaks about
the names of the outputs of other jobs, which is why two of them can end up in one variable. -/
theorem make_validated_eq_ok_iff {name : Label} {jobs : Jobs} {transfer : EnvTransfer}
    {env : OrderedMap String Value} {w : Workflow} :
    (make name (some jobs) [Validation.fullExtension, transfer.asExtension] env).result = .ok w ↔
      name.isTruthy = true ∧ checkArtifacts jobs = .ok ()
        ∧ Validation.validate (ofJobs name jobs env) = .ok (ofJobs name jobs env)
        ∧ HasFixedNeeds (ofJobs name jobs env) ∧ w = transfer.extend (ofJobs name jobs env) := by
  rw [make_eq_ok_iff, Validation.fullExtension, EnvTransfer.asExtension,
    Pipeline.result_ofPass_pair, Success.bind_eq_ok]
  constructor
  · rintro ⟨hname, hunique, v, hv, hw⟩
    -- what validation lets through is what the transfer gets
    obtain rfl : v = ofJobs name jobs env := (Validation.validate_eq_ok_iff.mp hv).1
    exact ⟨hname, hunique, hv, apply_eq_ok_iff.mp hw⟩
  · rintro ⟨hname, hunique, hv, hw⟩
    exact ⟨hname, hunique, _, hv, apply_eq_ok_iff.mpr hw⟩

/-- **When two env outputs arrive in one variable.** Those that a job of a validated workflow takes
over arrive in the variables of their references, and these are the same if the names sanitize
alike, or if an underscore in a name is taken for the one between the names. Neither the check of
the artifacts nor the validation looks at them, so nothing but the names enters the condition. -/
theorem make_imports_iff {name : Label} {jobs : Jobs} {transfer : EnvTransfer}
    {env : OrderedMap String Value} {w : Workflow}
    (hw : (make name (some jobs) [Validation.fullExtension, transfer.asExtension] env).result =
      .ok w)
    {client producer output producer' output' : String}
    (h : TakesOver w client producer output) (h' : TakesOver w client producer' output') :
    Imports w client producer output (jobOutputVar producer output)
    ∧ Imports w client producer' output' (jobOutputVar producer' output')
    ∧ (jobOutputVar producer output = jobOutputVar producer' output' ↔
        (sanitize producer = sanitize producer' ∧ sanitize output = sanitize output')
        ∨ Overlaps producer output producer' output'
        ∨ Overlaps producer' output' producer output) := by
  obtain ⟨-, -, -, -, rfl⟩ := make_validated_eq_ok_iff.mp hw
  rw [takesOver_extend] at h h'
  exact ⟨imports_extend transfer h, imports_extend transfer h', jobOutputVar_eq_iff⟩

/-! ## Two jobs with one variable -/

/-- Two jobs make a tag, and the third needs both of them. -/
def imageJobs : Jobs :=
  OrderedMap.ofList
    [("build-image", relayJob "build-image" []), ("build_image", relayJob "build_image" []),
      ("deploy", relayJob "deploy" [.text "build-image", .text "build_image"])]

theorem checkArtifacts_imageJobs : checkArtifacts imageJobs = .ok () := by
  have hmakes : ∀ name artifact, ¬ Makes imageJobs name artifact := by
    rintro name artifact ⟨job, hjob, hmem⟩
    rcases List.mem_cons.mp (OrderedMap.get?_eq_some_iff.mp hjob) with h | h
    · cases h
      cases hmem
    · rcases List.mem_cons.mp h with h | h
      · cases h
        cases hmem
      · cases List.mem_singleton.mp h
        cases hmem
  rw [checkArtifacts_eq_ok_iff]
  intro k l artifact hk
  exact absurd hk (hmakes k artifact)

theorem hasFixedNeeds_imageJobs : HasFixedNeeds (ofJobs (.text "ci") imageJobs ∅) := by
  intro e he need hneed
  rcases List.mem_cons.mp he with rfl | he
  · cases hneed
  · rcases List.mem_cons.mp he with rfl | he
    · cases hneed
    · cases List.mem_singleton.mp he
      rcases List.mem_cons.mp hneed with rfl | hneed
      · rfl
      · cases List.mem_singleton.mp hneed
        rfl

/-- The third job takes over both tags in one variable. -/
theorem make_imports_imageJobs :
    ∃ w, (make (.text "ci") (some imageJobs)
          [Validation.fullExtension, EnvTransfer.asExtension {}] ∅).result = .ok w
      ∧ Imports w "deploy" "build-image" "tag" "JOB_OUTPUT_build_image_tag"
      ∧ Imports w "deploy" "build_image" "tag" "JOB_OUTPUT_build_image_tag" := by
  let w := ofJobs (.text "ci") imageJobs ∅
  have hmake : (make (.text "ci") (some imageJobs)
      [Validation.fullExtension, EnvTransfer.asExtension {}] ∅).result =
        .ok (EnvTransfer.extend {} w) :=
    make_validated_eq_ok_iff.mpr
      ⟨rfl, checkArtifacts_imageJobs, rfl, hasFixedNeeds_imageJobs, rfl⟩
  have hdash : TakesOver (EnvTransfer.extend {} w) "deploy" "build-image" "tag" :=
    (takesOver_extend {}).mpr
      ⟨_, _, rfl, List.mem_cons_self, rfl, List.mem_singleton.mpr rfl⟩
  have hunderscore : TakesOver (EnvTransfer.extend {} w) "deploy" "build_image" "tag" :=
    (takesOver_extend {}).mpr
      ⟨_, _, rfl, List.mem_cons_of_mem _ List.mem_cons_self, rfl, List.mem_singleton.mpr rfl⟩
  obtain ⟨hfirst, hsecond, hshared⟩ := make_imports_iff hmake hdash hunderscore
  have hsame : sanitize "build-image" = sanitize "build_image" := by decide
  have hvar : jobOutputVar "build_image" "tag" = "JOB_OUTPUT_build_image_tag" := by decide
  rw [hshared.mpr (Or.inl ⟨hsame, rfl⟩), hvar] at hfirst
  rw [hvar] at hsecond
  exact ⟨_, hmake, hfirst, hsecond⟩

end Workflow

end ShellFlow

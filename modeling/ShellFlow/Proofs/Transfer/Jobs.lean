import ShellFlow.EnvTransfer
import ShellFlow.Proofs.Action.Exports
import ShellFlow.Proofs.FirstOccurrence

/-!
# Jobs after the env transfer

The transfer goes over the jobs one by one, and a job can be rewritten on two sides: as one that has
env outputs, and as one that needs such jobs. Here the result is said as a whole, for every job of a
workflow, and what it depends on.

* **`apply_eq_ok_iff`** — the transfer succeeds if what the jobs need can be looked up.
* **`neededInOrder_neededProducers`**, **`NeededInOrder.unique`** — the producers that a job needs, by
  what they are and in which order they stand.
* **`transformJob_eq`** — the rewritten job, field by field.
* **`apply_frame`** — the workflow after the transfer.
-/

namespace ShellFlow.EnvTransfer

/-- What the jobs need can be looked up among the names of jobs. -/
def HasFixedNeeds (w : Workflow) : Prop :=
  ∀ e ∈ w.jobs.entries, ∀ need ∈ e.2.needs, need.checkFixed = .ok ()

def IsProducer (jobs : Jobs) (name : String) : Prop :=
  ∃ job, jobs.get? name = some job ∧ job.envOutputs ≠ []

/-- The names are those of the producers among what is needed, in the order in which they are needed
first. -/
structure NeededInOrder (jobs : Jobs) (needs : List Value) (needed : List String) : Prop where
  mem_iff : ∀ name, name ∈ needed ↔ Value.text name ∈ needs ∧ IsProducer jobs name
  ordered : needed.Pairwise fun a b => FirstBefore needs (.text a) (.text b)

/-- What becomes of a job of a name that needs some producers. -/
structure Extends (transfer : EnvTransfer) (name : String) (needed : List String)
    (job job' : Job) : Prop where
  steps : job'.steps =
    (if needed = [] then [] else [transfer.importStep needed]) ++ job.steps
      ++ (if job.envOutputs = [] then [] else [transfer.exportStep name job])
  inputs : job'.inputs = needed.map (fun need => .text (outputArtifact need)) ++ job.inputs
  outputs : ∀ artifact, job'.outputs.get? artifact =
    if job.envOutputs ≠ [] ∧ artifact = outputArtifact name then some (.text (outputFile name))
    else job.outputs.get? artifact
  outputs_keys : job'.outputs.keys =
    if job.envOutputs ≠ [] ∧ outputArtifact name ∉ job.outputs.keys then
      job.outputs.keys ++ [outputArtifact name]
    else job.outputs.keys
  rest : job' = { job with steps := job'.steps, inputs := job'.inputs, outputs := job'.outputs }
  unchanged : job.envOutputs = [] → needed = [] → job' = job

/-! ## Success -/

/-- **When a transfer can be made, and what it makes.** It fails only where a need is no text that
could be looked up, so a proof about it may speak of `extend`, which is total. -/
theorem apply_eq_ok_iff {transfer : EnvTransfer} {w w' : Workflow} :
    transfer.apply w = .ok w' ↔ HasFixedNeeds w ∧ w' = transfer.extend w := by
  have hneeds : w.jobs.values.forM checkNeeds = .ok () ↔ HasFixedNeeds w := by
    unfold checkNeeds OrderedMap.values
    rw [Success.forM_eq_ok, List.forall_mem_map]
    simp only [Success.forM_eq_ok]
    rfl
  unfold apply
  rw [Success.bind_eq_ok, ← hneeds]
  constructor
  · rintro ⟨_, h, hw⟩
    injection hw with hw
    exact ⟨h, hw.symm⟩
  · rintro ⟨h, rfl⟩
    exact ⟨(), h, rfl⟩

/-! ## The needed producers -/

theorem mem_producerNames_iff {jobs : Jobs} {name : String} :
    name ∈ producerNames jobs ↔ IsProducer jobs name := by
  unfold producerNames IsProducer
  simp only [List.mem_map, List.mem_filter, Prod.exists, OrderedMap.get?_eq_some_iff]
  constructor
  · rintro ⟨_, job, ⟨hjob, houtputs⟩, rfl⟩
    exact ⟨job, hjob, by simpa using houtputs⟩
  · rintro ⟨job, hjob, houtputs⟩
    exact ⟨name, job, ⟨hjob, by simpa using houtputs⟩, rfl⟩

/-- The producer that a need is read as. -/
def readNeed (jobs : Jobs) : Value → Option String
  | .text need => if (producerNames jobs).contains need then some need else none
  | _ => none

theorem readNeed_eq_some_iff {jobs : Jobs} {need : Value} {name : String} :
    readNeed jobs need = some name ↔ need = .text name ∧ IsProducer jobs name := by
  cases need with
  | text s =>
    rw [← mem_producerNames_iff]
    by_cases hs : s ∈ producerNames jobs
    · simp only [readNeed, List.contains_iff_mem, hs, if_true, Option.some.injEq,
        Value.text.injEq]
      exact ⟨fun h => ⟨h, h ▸ hs⟩, fun h => h.1⟩
    · simp only [readNeed, List.contains_iff_mem, hs, if_false, Value.text.injEq]
      constructor
      · intro h
        cases h
      · rintro ⟨rfl, hname⟩
        exact absurd hname hs
  | null | bool _ | int _ | float _ | list _ | tuple _ | mapping _ | path _ | bytes _ | object _ _
  | struct _ _ _ | noDefault | reference _ => simp [readNeed]

theorem neededProducers_eq (jobs : Jobs) (job : Job) :
    neededProducers job (producerNames jobs) =
      (job.needs.filterMap (readNeed jobs)).eraseDups := rfl

/-- The producers that a job needs are named in the order of its needs, each once. -/
theorem neededInOrder_neededProducers (jobs : Jobs) (job : Job) :
    NeededInOrder jobs job.needs (neededProducers job (producerNames jobs)) := by
  rw [neededProducers_eq]
  constructor
  · intro name
    rw [List.mem_eraseDups, List.mem_filterMap]
    constructor
    · rintro ⟨need, hneed, h⟩
      obtain ⟨rfl, hproducer⟩ := readNeed_eq_some_iff.mp h
      exact ⟨hneed, hproducer⟩
    · rintro ⟨hneed, hproducer⟩
      exact ⟨_, hneed, readNeed_eq_some_iff.mpr ⟨rfl, hproducer⟩⟩
  · refine (pairwise_eraseDups _).imp_of_mem ?_
    intro a b _ hb hab
    -- `b` is read back from each of its occurrences, so none of them is left out
    obtain ⟨need, -, h⟩ := List.mem_filterMap.mp (List.mem_eraseDups.mp hb)
    have hproducer := (readNeed_eq_some_iff.mp h).2
    exact firstBefore_of_filterMap (fun need name h => (readNeed_eq_some_iff.mp h).1)
      (readNeed_eq_some_iff.mpr ⟨rfl, hproducer⟩) hab

theorem NeededInOrder.nodup {jobs : Jobs} {needs : List Value} {needed : List String}
    (h : NeededInOrder jobs needs needed) : needed.Nodup := by
  refine h.ordered.imp ?_
  intro a b hab heq
  exact hab.ne (congrArg Value.text heq)

/-- The needed producers are determined by the names of producers, whatever jobs these are. -/
theorem NeededInOrder.unique {jobs jobs' : Jobs} {needs : List Value} {needed needed' : List String}
    (h : NeededInOrder jobs needs needed) (h' : NeededInOrder jobs' needs needed')
    (hproducers : ∀ name, IsProducer jobs name ↔ IsProducer jobs' name) : needed = needed' := by
  have hmem : ∀ name, name ∈ needed ↔ name ∈ needed' := by
    intro name
    rw [h.mem_iff, h'.mem_iff, hproducers]
  have hperm : needed.Perm needed' := (List.perm_ext_iff_of_nodup h.nodup h'.nodup).mpr hmem
  refine hperm.eq_of_pairwise ?_ h.ordered h'.ordered
  intro a b _ _ hab hba
  exact absurd hba hab.asymm

/-! ## The rewritten job

Which steps and artifacts a job gets depends on its needs and its outputs only. The four
combinations are settled here, so that later proofs go by the fields of `Extends`. -/

/-- Artifacts of different jobs have different names: the name of the job stands behind a fixed
front. -/
theorem outputArtifact_injective {a b : String} (h : outputArtifact a = outputArtifact b) :
    a = b := by
  unfold outputArtifact at h
  exact (String.append_right_inj _).mp h

/-- What becomes of a job, as one record: steps in front and behind, artifacts behind, and all else
as it was. -/
theorem transformJob_eq (transfer : EnvTransfer) (producers : List String) (name : String)
    (job : Job) :
    transfer.transformJob producers name job =
      let needed := neededProducers job producers
      { job with
        steps :=
          (if needed = [] then [] else [transfer.importStep needed]) ++ job.steps
            ++ (if name ∈ producers then [transfer.exportStep name job] else [])
        inputs := needed.map (fun need => .text (outputArtifact need)) ++ job.inputs
        outputs :=
          if name ∈ producers then
            job.outputs.insert (outputArtifact name) (.text (outputFile name))
          else job.outputs } := by
  unfold transformJob transformConsumer
  by_cases hname : name ∈ producers
  · -- what a job needs is not changed on the side of the producer
    have hneeds : neededProducers (transfer.transformProducer name job) producers =
        neededProducers job producers := rfl
    simp only [List.contains_iff_mem, hname, if_true, hneeds]
    cases neededProducers job producers with
    | nil => simp [transformProducer]
    | cons need rest => simp [transformProducer]
  · simp only [List.contains_iff_mem, hname, if_false]
    cases neededProducers job producers with
    | nil => simp
    | cons need rest => simp

/-- Around the steps of a job come steps that no action has made. -/
theorem exists_steps_transformJob (transfer : EnvTransfer) (producers : List String) (name : String)
    (job : Job) :
    ∃ front back, (transfer.transformJob producers name job).steps = front ++ job.steps ++ back
      ∧ ∀ step ∈ front ++ back, step.action = none := by
  rw [transformJob_eq]
  refine ⟨_, _, rfl, fun step hstep => ?_⟩
  rcases List.mem_append.mp hstep with hstep | hstep
  · split at hstep
    · cases hstep
    · cases List.mem_singleton.mp hstep
      rfl
  · split at hstep
    · cases List.mem_singleton.mp hstep
      rfl
    · cases hstep

/-- The needs stay, so after a transfer the next one finds the same producers needed. -/
@[simp]
theorem needs_transformJob (transfer : EnvTransfer) (producers : List String) (name : String)
    (job : Job) : (transfer.transformJob producers name job).needs = job.needs := by
  rw [transformJob_eq]

/-- The declared outputs stay, so a producer is a producer after the transfer. -/
@[simp]
theorem envOutputs_transformJob (transfer : EnvTransfer) (producers : List String) (name : String)
    (job : Job) : (transfer.transformJob producers name job).envOutputs = job.envOutputs := by
  rw [transformJob_eq]
  rfl

theorem isProducer_iff {jobs : Jobs} {name : String} {job : Job} (h : jobs.get? name = some job) :
    IsProducer jobs name ↔ job.envOutputs ≠ [] := by
  unfold IsProducer
  rw [h]
  constructor
  · rintro ⟨_, hjob, houtputs⟩
    cases hjob
    exact houtputs
  · intro houtputs
    exact ⟨job, rfl, houtputs⟩

/-- Of a job that the workflow has, its outputs decide whether it is a producer. -/
theorem mem_producerNames_of_get?_iff {jobs : Jobs} {name : String} {job : Job}
    (h : jobs.get? name = some job) : name ∈ producerNames jobs ↔ job.envOutputs ≠ [] := by
  rw [mem_producerNames_iff, isProducer_iff h]

/-- **A job after the transfer extends the job before it**, with the steps and artifacts that its
needs and its outputs call for. -/
theorem extends_transformJob (transfer : EnvTransfer) {jobs : Jobs} {name : String} {job : Job}
    (h : jobs.get? name = some job) :
    Extends transfer name (neededProducers job (producerNames jobs)) job
      (transfer.transformJob (producerNames jobs) name job) := by
  rw [transformJob_eq]
  have hname : name ∈ producerNames jobs ↔ job.envOutputs ≠ [] := mem_producerNames_of_get?_iff h
  -- without env outputs there is nothing to export
  by_cases houtputs : job.envOutputs = []
  · have hnot : name ∉ producerNames jobs := fun hmem => hname.mp hmem houtputs
    refine ⟨?_, rfl, ?_, ?_, rfl, ?_⟩
    · simp [hnot, houtputs]
    · simp [hnot, houtputs]
    · simp [hnot, houtputs]
    · intro _ hneeded
      simp [hnot, hneeded]
  · have hmem : name ∈ producerNames jobs := hname.mpr houtputs
    refine ⟨?_, rfl, ?_, ?_, rfl, ?_⟩
    · simp [hmem, houtputs]
    · intro artifact
      simp [hmem, houtputs, @eq_comm _ artifact]
    · simp only [hmem, if_true, OrderedMap.keys_insert]
      by_cases hkey : outputArtifact name ∈ job.outputs.keys
      · simp [hkey]
      · simp [hkey, houtputs]
    · intro hnone
      exact absurd hnone houtputs

/-- A rewritten job depends on the other jobs by which of them are producers. -/
theorem transformJob_congr (transfer : EnvTransfer) {jobs jobs' : Jobs}
    (hproducers : ∀ name, IsProducer jobs name ↔ IsProducer jobs' name) (name : String) (job : Job) :
    transfer.transformJob (producerNames jobs) name job =
      transfer.transformJob (producerNames jobs') name job := by
  have hneeded : neededProducers job (producerNames jobs) =
      neededProducers job (producerNames jobs') :=
    (neededInOrder_neededProducers jobs job).unique (neededInOrder_neededProducers jobs' job)
      hproducers
  have hname : name ∈ producerNames jobs ↔ name ∈ producerNames jobs' := by
    rw [mem_producerNames_iff, mem_producerNames_iff, hproducers]
  rw [transformJob_eq, transformJob_eq, hneeded]
  simp only [hname]

/-! ## The workflow -/

/-- The transfer works on each job alone; of the others it knows only which are producers. -/
theorem jobs_extend (transfer : EnvTransfer) (w : Workflow) :
    (transfer.extend w).jobs = w.jobs.map (transfer.transformJob (producerNames w.jobs)) := by
  have hnamed : ∀ e ∈ (w.jobs.map (transfer.transformJob (producerNames w.jobs))).entries,
      e.2.name = .text e.1 := by
    intro e he
    obtain ⟨⟨name, job⟩, hjob, rfl⟩ := List.mem_map.mp he
    rw [transformJob_eq]
    exact w.named (name, job) hjob
  -- the jobs bear their names already, so they are not renamed
  exact Workflow.rename_jobs ⟨w.name, _, w.env, hnamed⟩

/-- The job of a name after the transfer is the one before it, transformed. -/
theorem get?_extend (transfer : EnvTransfer) (w : Workflow) (name : String) :
    (transfer.extend w).jobs.get? name =
      (w.jobs.get? name).map (transfer.transformJob (producerNames w.jobs) name) := by
  rw [jobs_extend, OrderedMap.get?_map]

/-- The producers are the same before and after a transfer. -/
theorem isProducer_extend (transfer : EnvTransfer) {w : Workflow} {name : String} :
    IsProducer (transfer.extend w).jobs name ↔ IsProducer w.jobs name := by
  unfold IsProducer
  simp [get?_extend]

/-- The transfer does not change what can be looked up, so it can be run again. -/
theorem hasFixedNeeds_extend {transfer : EnvTransfer} {w : Workflow} (h : HasFixedNeeds w) :
    HasFixedNeeds (transfer.extend w) := by
  intro e he need hneed
  rw [jobs_extend] at he
  obtain ⟨e', he', rfl⟩ := List.mem_map.mp he
  rw [needs_transformJob] at hneed
  exact h e' he' need hneed

/-- **What a transfer touches.** It keeps the workflow but for the steps, the inputs and the outputs
of jobs, where it adds what producers and those who need them have to do. What it adds to a job
depends on the other jobs only by which of them are producers, so their order does not matter: this
is `transformJob_congr`, used for the same job among other ones and for the same jobs in another
order. -/
theorem apply_frame (transfer : EnvTransfer) {w : Workflow} (hneeds : HasFixedNeeds w) :
    ∃ w', transfer.apply w = .ok w'
      ∧ w'.name = w.name ∧ w'.env = w.env ∧ w'.jobs.keys = w.jobs.keys
      ∧ (∀ name job, w.jobs.get? name = some job →
          ∃ needed job', NeededInOrder w.jobs job.needs needed ∧ w'.jobs.get? name = some job'
            ∧ Extends transfer name needed job job'
            ∧ (transfer.exportStep name job).condition = .text "always()")
      ∧ (∀ v, HasFixedNeeds v → (∀ name, IsProducer v.jobs name ↔ IsProducer w.jobs name) →
          ∃ v', transfer.apply v = .ok v'
            ∧ ∀ name job, v.jobs.get? name = some job → w.jobs.get? name = some job →
                v'.jobs.get? name = w'.jobs.get? name)
      ∧ (∀ v, v.jobs.entries.Perm w.jobs.entries →
          ∃ v', transfer.apply v = .ok v' ∧ v'.jobs.entries.Perm w'.jobs.entries) := by
  refine ⟨transfer.extend w, apply_eq_ok_iff.mpr ⟨hneeds, rfl⟩, rfl, rfl, keys_extend transfer w,
    ?_, ?_, ?_⟩
  · intro name job hjob
    refine ⟨_, _, neededInOrder_neededProducers w.jobs job, ?_, extends_transformJob transfer hjob,
      rfl⟩
    rw [get?_extend, hjob]
    rfl
  · -- a job is transformed in the same way wherever the same jobs are producers
    intro v hv hproducers
    refine ⟨transfer.extend v, apply_eq_ok_iff.mpr ⟨hv, rfl⟩, ?_⟩
    intro name job hvjob hwjob
    rw [get?_extend, get?_extend, hvjob, hwjob, Option.map_some, Option.map_some,
      transformJob_congr transfer hproducers]
  · -- the same jobs in another order have the same producers
    intro v hperm
    have hv : HasFixedNeeds v := fun e he => hneeds e (hperm.mem_iff.mp he)
    have hproducers : ∀ name, IsProducer v.jobs name ↔ IsProducer w.jobs name := by
      intro name
      unfold IsProducer
      simp only [OrderedMap.get?_eq_some_iff, hperm.mem_iff]
    refine ⟨transfer.extend v, apply_eq_ok_iff.mpr ⟨hv, rfl⟩, ?_⟩
    rw [jobs_extend, jobs_extend]
    unfold OrderedMap.map
    simp only [transformJob_congr transfer hproducers]
    exact hperm.map _

/-! ## Two producers, of which one needs both -/

/-- A job that hands over a tag, which one of its steps has made. -/
def relayJob (name : String) (needs : List Value) : Job where
  name := .text name
  executor := .text "local"
  steps := [(Action.oneOutputCall "make-tag" "tag").step]
  outputs := ∅
  inputs := [.text "sources"]
  needs := needs
  env := ∅
  envFrom := []
  condition := .null
  continueOnError := .bool false
  retry := .null
  timeout := .null
  info := some
    { name := .text name
      inputs := ∅
      envOutputs := ["tag"]
      artifacts := ∅
      description := .text ""
      inputValues := ∅ }

/-- Among what the second job needs are itself, the first job twice, and a job that is missing. -/
def relayNeeds : List Value := [.text "lint", .text "build", .text "test", .text "build"]

def relayWorkflow : Workflow :=
  .ofJobs (.text "relay")
    (OrderedMap.ofList [("build", relayJob "build" []), ("test", relayJob "test" relayNeeds)]) ∅

theorem hasFixedNeeds_relayWorkflow : HasFixedNeeds relayWorkflow := by
  intro e he need hneed
  rcases List.mem_cons.mp he with rfl | he
  · cases hneed
  · cases List.mem_singleton.mp he
    have hneed : need ∈ relayNeeds := hneed
    simp only [relayNeeds, List.mem_cons, List.not_mem_nil, or_false] at hneed
    rcases hneed with rfl | rfl | rfl | rfl <;> rfl

theorem apply_frame_relayWorkflow :
    HasFixedNeeds relayWorkflow
    ∧ ∃ w' job', EnvTransfer.apply {} relayWorkflow = .ok w' ∧ w'.jobs.get? "test" = some job'
        ∧ Extends {} "test" ["build", "test"] (relayJob "test" relayNeeds) job' := by
  obtain ⟨w', hw', -, -, -, hjobs, -⟩ := apply_frame {} hasFixedNeeds_relayWorkflow
  obtain ⟨needed, job', hneeded, hjob', hextends, -⟩ := hjobs "test" (relayJob "test" relayNeeds) rfl
  have hlist : needed = ["build", "test"] :=
    hneeded.unique (neededInOrder_neededProducers relayWorkflow.jobs (relayJob "test" relayNeeds))
      fun _ => Iff.rfl
  rw [hlist] at hextends
  exact ⟨hasFixedNeeds_relayWorkflow, w', job', hw', hjob', hextends⟩

end ShellFlow.EnvTransfer

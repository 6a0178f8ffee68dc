import Mathlib.Data.Nat.Init
import ShellFlow.Proofs.Transfer.Handover

/-!
# The env transfer, applied again and again

The transfer does not look whether it was applied before, so a second application adds its steps and
artifacts a second time. What it adds is the same every time: which jobs are producers and what is
needed of them does not change, and no action has made the steps that came in, so these are not
searched for values.

* **`searchOrder_surround`** — steps that no action has made are not searched.
* **`Repeats.transformJob`**, **`Repeated.extend`** — one more application, to a job and to a workflow.
* **`exists_repeated`** — all applications, by induction on their number.
* **`applyAll_replicate`** — a job after one application and after many.
-/

namespace ShellFlow.EnvTransfer

/-! ## Several transfers -/

/-- Transfers one after another, as the extensions of a pipeline. -/
def applyAll (transfers : List EnvTransfer) (w : Workflow) : Except Failure Workflow :=
  (Pipeline.applyAll (transfers.map asExtension) w).result

/-- One transfer and then the others, the step of the inductions below. -/
theorem applyAll_cons (transfer : EnvTransfer) (rest : List EnvTransfer) (w : Workflow) :
    applyAll (transfer :: rest) w = (transfer.apply w >>= applyAll rest) := by
  show (Pipeline.applyAll (transfer.asExtension :: rest.map asExtension) w).result = _
  rw [Pipeline.result_cons, asExtension, Extension.result_ofPass]
  rfl

theorem applyAll_append (first second : List EnvTransfer) (w : Workflow) :
    applyAll (first ++ second) w = (applyAll first w >>= applyAll second) := by
  show (Pipeline.applyAll ((first ++ second).map asExtension) w).result = _
  rw [List.map_append, Pipeline.apply_append, Traced.result_bind]
  rfl

/-! ## The searched steps -/

/-- Steps that were made from no action do not change the search order, whether they come in front
or behind. -/
theorem searchOrder_surround (transfer : EnvTransfer) {job job' : Job} {front back : List Step}
    (hsteps : job'.steps = front ++ job.steps ++ back)
    (hplain : ∀ step ∈ front ++ back, step.action = none) (output : String) :
    transfer.searchOrder job' output = transfer.searchOrder job output := by
  have hnone : ∀ added : List Step, (∀ step ∈ added, step ∈ front ++ back) →
      added.reverse.filterMap (declaredStem? output) = [] := by
    intro added hadded
    refine List.filterMap_eq_nil_iff.mpr fun step hstep => ?_
    rw [declaredStem?, declaresOutput, hplain step (hadded step (List.mem_reverse.mp hstep))]
    rfl
  have hfront := hnone front fun _ hstep => List.mem_append_left _ hstep
  have hback := hnone back fun _ hstep => List.mem_append_right _ hstep
  rw [searchOrder_eq, searchOrder_eq, hsteps, List.reverse_append, List.reverse_append,
    List.filterMap_append, List.filterMap_append, hfront, hback, List.nil_append, List.append_nil]

/-- So an earlier transfer, whatever its settings, does not change the search order of a later
one. -/
theorem searchOrder_transformJob (transfer other : EnvTransfer) (producers : List String)
    (name : String) (job : Job) (output : String) :
    transfer.searchOrder (other.transformJob producers name job) output =
      transfer.searchOrder job output := by
  obtain ⟨front, back, hsteps, hplain⟩ := other.exists_steps_transformJob producers name job
  exact transfer.searchOrder_surround hsteps hplain output

/-- A rewritten job would get the export step that the job has got. -/
theorem exportStep_transformJob (transfer other : EnvTransfer) (producers : List String)
    (key name : String) (job : Job) :
    transfer.exportStep name (other.transformJob producers key job) = transfer.exportStep name job := by
  unfold exportStep
  simp only [envOutputs_transformJob, searchOrder_transformJob]

/-! ## One job -/

/-- What has become of a job that needs some producers after `n` transfers. -/
structure Repeats (transfer : EnvTransfer) (n : Nat) (name : String) (needed : List String)
    (job job' : Job) : Prop where
  steps : job'.steps =
    (if needed = [] then [] else List.replicate n (transfer.importStep needed)) ++ job.steps
      ++ (if job.envOutputs = [] then [] else List.replicate n (transfer.exportStep name job))
  inputs : job'.inputs =
    (List.replicate n (needed.map fun need => Value.text (outputArtifact need))).flatten ++ job.inputs
  outputs : job'.outputs =
    if job.envOutputs = [] then job.outputs
    else job.outputs.insert (outputArtifact name) (.text (outputFile name))
  rest : job' = { job with steps := job'.steps, inputs := job'.inputs, outputs := job'.outputs }
  /-- The next transfer would add the same step again. -/
  exportStep : transfer.exportStep name job' = transfer.exportStep name job

variable {transfer : EnvTransfer} {n : Nat} {name : String} {needed producers : List String}
  {job job' : Job}

theorem Repeats.needs (h : Repeats transfer n name needed job job') : job'.needs = job.needs := by
  rw [h.rest]

/-- One transfer is the first repetition. -/
theorem repeats_transformJob (hproducer : name ∈ producers ↔ job.envOutputs ≠ []) :
    Repeats transfer 1 name (neededProducers job producers) job
      (transfer.transformJob producers name job) := by
  have hexport := exportStep_transformJob transfer transfer producers name name job
  constructor
  · rw [transformJob_eq]
    simp [hproducer]
  · rw [transformJob_eq]
    simp
  · rw [transformJob_eq]
    simp [hproducer]
  · rw [transformJob_eq]
  · exact hexport

/-- One more transfer adds the same steps, one at either end, and the same artifacts. -/
theorem Repeats.transformJob (h : Repeats transfer n name (neededProducers job producers) job job')
    (hproducer : name ∈ producers ↔ job.envOutputs ≠ []) :
    Repeats transfer (n + 1) name (neededProducers job producers) job
      (transfer.transformJob producers name job') := by
  have hneeded : neededProducers job' producers = neededProducers job producers := by
    unfold neededProducers
    rw [h.needs]
  constructor
  · -- the import steps grow at their front and the export steps at their back
    have hback : (if job.envOutputs = [] then [] else List.replicate n (transfer.exportStep name job))
        ++ (if name ∈ producers then [transfer.exportStep name job] else []) =
          if job.envOutputs = [] then [] else List.replicate (n + 1) (transfer.exportStep name job) := by
      by_cases houtputs : job.envOutputs = []
      · simp [hproducer, houtputs]
      · simp [hproducer, houtputs, List.replicate_succ']
    rw [transformJob_eq, hneeded, h.exportStep, ← hback]
    show _ ++ job'.steps ++ _ = _
    rw [h.steps]
    by_cases hnone : neededProducers job producers = []
    · simp [hnone]
    · simp [hnone, List.replicate_succ]
  · rw [transformJob_eq, hneeded, List.replicate_succ, List.flatten_cons, List.append_assoc,
      ← h.inputs]
  · rw [transformJob_eq, h.outputs]
    by_cases houtputs : job.envOutputs = []
    · simp [hproducer, houtputs]
    · -- the artifact is there already, under the same name
      simp [hproducer, houtputs, OrderedMap.insert_eq_self]
  · rw [transformJob_eq, h.rest]
  · rw [exportStep_transformJob, h.exportStep]

/-! ## The workflow -/

/-- What has become of a workflow after `n` transfers. -/
structure Repeated (transfer : EnvTransfer) (n : Nat) (w v : Workflow) : Prop where
  name : v.name = w.name
  env : v.env = w.env
  keys : v.jobs.keys = w.jobs.keys
  fixed : HasFixedNeeds v
  producers : ∀ key, IsProducer v.jobs key ↔ IsProducer w.jobs key
  jobs : ∀ key job, w.jobs.get? key = some job → ∃ job', v.jobs.get? key = some job'
    ∧ Repeats transfer n key (neededProducers job (producerNames w.jobs)) job job'

variable {w v : Workflow}

/-- One transfer of a whole workflow; the start of the induction on the number of transfers. -/
theorem repeated_extend (hneeds : HasFixedNeeds w) : Repeated transfer 1 w (transfer.extend w) := by
  refine ⟨rfl, rfl, keys_extend transfer w, hasFixedNeeds_extend hneeds,
    fun _ => isProducer_extend transfer, fun key job hjob => ?_⟩
  refine ⟨_, ?_, repeats_transformJob (mem_producerNames_of_get?_iff hjob)⟩
  rw [get?_extend, hjob]
  rfl

/-- **One transfer more.** The steps it adds are the very steps of the first one: the needs, the
producers and the search order, from which they are built, have stayed. -/
theorem Repeated.extend (h : Repeated transfer n w v) :
    Repeated transfer (n + 1) w (transfer.extend v) := by
  refine ⟨h.name, h.env, ?_, hasFixedNeeds_extend h.fixed,
    fun key => (isProducer_extend transfer).trans (h.producers key), fun key job hjob => ?_⟩
  · rw [keys_extend, h.keys]
  · obtain ⟨job', hjob', hrepeats⟩ := h.jobs key job hjob
    refine ⟨_, ?_, hrepeats.transformJob (mem_producerNames_of_get?_iff hjob)⟩
    rw [get?_extend, hjob', Option.map_some, transformJob_congr transfer h.producers]

/-- Induction on the number of transfers. -/
theorem exists_repeated (transfer : EnvTransfer) (hneeds : HasFixedNeeds w) (hn : 1 ≤ n) :
    ∃ v, applyAll (List.replicate n transfer) w = .ok v ∧ Repeated transfer n w v := by
  induction n, hn using Nat.le_induction with
  | base =>
    refine ⟨transfer.extend w, ?_, repeated_extend hneeds⟩
    rw [List.replicate_one, applyAll_cons, apply_eq_ok_iff.mpr ⟨hneeds, rfl⟩]
    rfl
  | succ n _ ih =>
    obtain ⟨v, hv, hrepeated⟩ := ih
    refine ⟨transfer.extend v, ?_, hrepeated.extend⟩
    rw [List.replicate_succ', applyAll_append, hv]
    show applyAll [transfer] v = _
    rw [applyAll_cons, apply_eq_ok_iff.mpr ⟨hrepeated.fixed, rfl⟩]
    rfl

/-- **Repeated transfers.** After `n` transfers every job has the steps that a single one puts
around its own, `n` times each, takes the artifacts of a single one `n` times over, and makes those
of a single one. Induction on `n` with `Repeated` as its invariant, which speaks of the steps of the
first transfer throughout. -/
theorem applyAll_replicate (transfer : EnvTransfer) {w : Workflow} (hneeds : HasFixedNeeds w) {n : Nat}
    (hn : 1 ≤ n) :
    ∃ once many, transfer.apply w = .ok once ∧ applyAll (List.replicate n transfer) w = .ok many
      ∧ many.name = w.name ∧ many.env = w.env ∧ many.jobs.keys = w.jobs.keys
      ∧ ∀ key job, w.jobs.get? key = some job →
          ∃ needed job₁ jobₙ, NeededInOrder w.jobs job.needs needed
            ∧ once.jobs.get? key = some job₁ ∧ Extends transfer key needed job job₁
            ∧ many.jobs.get? key = some jobₙ ∧ Repeats transfer n key needed job jobₙ
            ∧ jobₙ.outputs = job₁.outputs := by
  obtain ⟨many, hmany, hrepeated⟩ := exists_repeated transfer hneeds hn
  refine ⟨transfer.extend w, many, apply_eq_ok_iff.mpr ⟨hneeds, rfl⟩, hmany, hrepeated.name,
    hrepeated.env, hrepeated.keys, fun key job hjob => ?_⟩
  obtain ⟨job₁, hjob₁, honce⟩ := (repeated_extend hneeds).jobs key job hjob
  obtain ⟨jobₙ, hjobₙ, hrepeats⟩ := hrepeated.jobs key job hjob
  have hextends := extends_transformJob transfer hjob
  refine ⟨_, job₁, jobₙ, neededInOrder_neededProducers w.jobs job, hjob₁, ?_, hjobₙ, hrepeats, ?_⟩
  · rw [get?_extend, hjob] at hjob₁
    cases hjob₁
    exact hextends
  · rw [hrepeats.outputs, honce.outputs]

/-- Two transfers, seen at a job that is both a producer and in need of two of them. -/
theorem applyAll_replicate_relayWorkflow :
    HasFixedNeeds relayWorkflow
    ∧ ∃ many job, applyAll [{}, {}] relayWorkflow = .ok many ∧ many.jobs.get? "test" = some job
        ∧ job.steps =
            List.replicate 2 (importStep {} ["build", "test"]) ++ (relayJob "test" relayNeeds).steps
              ++ List.replicate 2 (exportStep {} "test" (relayJob "test" relayNeeds))
        ∧ job.inputs =
            [.text "__envOutputs_build", .text "__envOutputs_test", .text "__envOutputs_build",
              .text "__envOutputs_test", .text "sources"] := by
  obtain ⟨once, many, -, hmany, -, -, -, hjobs⟩ :=
    applyAll_replicate {} hasFixedNeeds_relayWorkflow (show 1 ≤ 2 by omega)
  obtain ⟨needed, job₁, jobₙ, hneeded, -, -, hjob, hrepeats, -⟩ :=
    hjobs "test" (relayJob "test" relayNeeds) rfl
  have hlist : needed = ["build", "test"] :=
    hneeded.unique (neededInOrder_neededProducers relayWorkflow.jobs (relayJob "test" relayNeeds))
      fun _ => Iff.rfl
  rw [hlist] at hrepeats
  exact ⟨hasFixedNeeds_relayWorkflow, many, jobₙ, hmany, hjob, hrepeats.steps, hrepeats.inputs⟩

end ShellFlow.EnvTransfer

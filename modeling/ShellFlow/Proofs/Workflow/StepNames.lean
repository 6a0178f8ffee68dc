import ShellFlow.Proofs.Job.SharedVariables
import ShellFlow.Proofs.Transfer.Jobs

/-!
# Step names on the way through workflows

The scan for collisions groups the action steps of a job by their stems and reports every stem that
stands at several positions. A compiled job has none. It then goes through workflows: it is put under
a key, is handed on to other workflows, and the env transfer puts steps around its own. The steps that
come in were not made by an action, so they have no stem and the stems of the job stay distinct.

* **`shares_sharedStems`** — what the scan reports, told by the positions of the steps.
* **`stems_surround`** — steps without a stem change no stems.
* **`Arrives.uncollided`** — the way through workflows, by induction on the way.
* **`nameCollisions_report`** — both together.
-/

namespace ShellFlow

/-! ## What the scan reports -/

/-- An action step with the stem stands at the position. -/
def StemAt (steps : List Step) (stem : String) (i : Nat) : Prop :=
  ∃ step, steps[i]? = some step ∧ step.stem? = some stem

/-- The listed stems are those that stand at several positions, in the order in which they come first,
each with all its positions in order. -/
structure Shares (steps : List Step) (shared : List (String × List Nat)) : Prop where
  mem_iff : ∀ stem, stem ∈ shared.map Prod.fst ↔
    ∃ i j, i ≠ j ∧ StemAt steps stem i ∧ StemAt steps stem j
  ordered : shared.Pairwise fun a b => ∃ i, StemAt steps a.1 i ∧ ∀ j, StemAt steps b.1 j → i < j
  positions : ∀ e ∈ shared, e.2.Pairwise (· < ·) ∧ ∀ i, i ∈ e.2 ↔ StemAt steps e.1 i

/-- The collision of a stem at some positions. -/
def collisionAt (job : Label) (e : String × List Nat) : Failure :=
  .generatedNameCollision job (.text e.1) (.text ("STEP_OUTPUT_" ++ e.1))
    (e.2.map fun i => .int (Int.ofNat i))

/-- The stems that the scan finds at several positions, with these positions. -/
def sharedStems (steps : List Step) : List (String × List Nat) :=
  ((stems steps).eraseDups.filter fun stem => 1 < (stemPositions stem steps).length).map fun stem =>
    (stem, stemPositions stem steps)

/-- There is one report for each shared stem. -/
theorem collisions_eq_map (job : Label) (steps : List Step) :
    collisions job steps = (sharedStems steps).map (collisionAt job) := by
  unfold collisions sharedStems
  rw [List.map_map]
  rfl

/-- The positions of a stem are those of the action steps whose names are sanitized to it. -/
theorem mem_stemPositions_iff {steps : List Step} {stem : String} {i : Nat} :
    i ∈ stemPositions stem steps ↔ StemAt steps stem i := by
  unfold stemPositions StemAt
  simp only [List.mem_map, List.mem_filter, Prod.exists, List.mem_zipIdx_iff_getElem?, beq_iff_eq]
  constructor
  · rintro ⟨step, _, ⟨hstep, hstem⟩, rfl⟩
    exact ⟨step, hstep, hstem⟩
  · rintro ⟨step, hstep, hstem⟩
    exact ⟨step, i, ⟨hstep, hstem⟩, rfl⟩

/-- They are collected from the front, so they go up. -/
theorem pairwise_stemPositions (stem : String) (steps : List Step) :
    (stemPositions stem steps).Pairwise (· < ·) :=
  List.pairwise_map.mpr ((pairwise_zipIdx steps).filter _)

/-- A list of increasing positions is longer than one if it has two of them. -/
theorem one_lt_length_iff {l : List Nat} (h : l.Pairwise (· < ·)) :
    1 < l.length ↔ ∃ i j, i ≠ j ∧ i ∈ l ∧ j ∈ l := by
  match l with
  | [] => simp
  | [i] =>
    refine iff_of_false (by simp) ?_
    rintro ⟨a, b, hne, ha, hb⟩
    exact hne ((List.mem_singleton.mp ha).trans (List.mem_singleton.mp hb).symm)
  | i :: j :: rest =>
    have hlt : i < j := (List.pairwise_cons.mp h).1 j List.mem_cons_self
    refine iff_of_true (by simp) ⟨i, j, Nat.ne_of_lt hlt, ?_, ?_⟩
    · exact List.mem_cons_self
    · exact List.mem_cons_of_mem _ List.mem_cons_self

/-- **The stems that are reported are the shared ones**, in the order in which they first occur,
each with all of its positions. -/
theorem shares_sharedStems (steps : List Step) : Shares steps (sharedStems steps) := by
  -- a stem with several positions has two that differ
  have hmany : ∀ stem, 1 < (stemPositions stem steps).length ↔
      ∃ i j, i ≠ j ∧ StemAt steps stem i ∧ StemAt steps stem j := by
    intro stem
    rw [one_lt_length_iff (pairwise_stemPositions stem steps)]
    simp only [mem_stemPositions_iff]
  refine ⟨?_, ?_, ?_⟩
  · intro stem
    have hfst : (sharedStems steps).map Prod.fst =
        (stems steps).eraseDups.filter fun stem => 1 < (stemPositions stem steps).length := by
      unfold sharedStems
      rw [List.map_map]
      exact List.map_id _
    rw [hfst, List.mem_filter, List.mem_eraseDups, decide_eq_true_iff, hmany]
    constructor
    · exact fun h => h.2
    · rintro ⟨i, j, hne, hi, hj⟩
      exact ⟨exists_readAt_iff.mp ⟨i, hi⟩, i, j, hne, hi, hj⟩
  · refine List.pairwise_map.mpr (List.Pairwise.filter _ ?_)
    exact (pairwise_eraseDups _).imp exists_readAt_of_firstBefore
  · intro e he
    obtain ⟨stem, -, rfl⟩ := List.mem_map.mp he
    exact ⟨pairwise_stemPositions stem steps, fun i => mem_stemPositions_iff⟩

/-! ## Steps without a collision -/

/-- The scan runs to its end and finds nothing. -/
structure Uncollided (steps : List Step) : Prop where
  texts : NamedByTexts steps
  nodup : (stems steps).Nodup

/-- Nothing is reported exactly if the action steps have texts for names and no two of them have one
stem. -/
theorem nameCollisions_eq_nil_iff {name : Label} {steps : List Step} :
    nameCollisions name steps = .ok [] ↔ Uncollided steps := by
  rw [nameCollisions_eq_ok_iff, @eq_comm _ [], collisions_eq_nil_iff, ← nodup_stems_iff]
  exact ⟨fun h => ⟨h.1, h.2⟩, fun h => ⟨h.texts, h.nodup⟩⟩

/-- A job that was compiled from a template has no collision: it would have been refused. -/
theorem uncollided_of_compile {template : JobTemplate} {invocation : Invocation} {job : Job}
    (h : template.compile invocation = .ok job) : Uncollided job.steps := by
  obtain ⟨c, rfl⟩ := JobTemplate.compile_eq_ok_iff.mp h
  exact nameCollisions_eq_nil_iff.mp c.collisions_eq

theorem stems_surround {front back : List Step} (steps : List Step)
    (hplain : ∀ step ∈ front ++ back, step.action = none) :
    stems (front ++ steps ++ back) = stems steps := by
  have hnone : ∀ added, (∀ step ∈ added, step ∈ front ++ back) → stems added = [] := by
    intro added hadded
    refine List.filterMap_eq_nil_iff.mpr fun step hstep => ?_
    exact Step.stem?_of_action_none (hplain step (hadded step hstep))
  have hfront := hnone front fun _ hstep => List.mem_append_left _ hstep
  have hback := hnone back fun _ hstep => List.mem_append_right _ hstep
  unfold stems at *
  rw [List.filterMap_append, List.filterMap_append, hfront, hback, List.nil_append,
    List.append_nil]

/-- Steps that no action has made bring in no collision. -/
theorem Uncollided.surround {front back steps : List Step} (h : Uncollided steps)
    (hplain : ∀ step ∈ front ++ back, step.action = none) :
    Uncollided (front ++ steps ++ back) := by
  obtain ⟨hfront, hback⟩ := List.forall_mem_append.mp hplain
  constructor
  · intro step hstep haction
    rw [List.mem_append, List.mem_append] at hstep
    rcases hstep with (hstep | hstep) | hstep
    · rw [hfront step hstep] at haction
      cases haction
    · exact h.texts step hstep haction
    · rw [hback step hstep] at haction
      cases haction
  · rw [stems_surround steps hplain]
    exact h.nodup

/-- The transfer brings no collision into a job. -/
theorem Uncollided.transformJob {job : Job} (h : Uncollided job.steps) (transfer : EnvTransfer)
    (producers : List String) (name : String) :
    Uncollided (transfer.transformJob producers name job).steps := by
  obtain ⟨front, back, hsteps, hplain⟩ := transfer.exists_steps_transformJob producers name job
  rw [hsteps]
  exact h.surround hplain

/-! ## The way through workflows

A job is made once and then put into workflows, handed on and rewritten. On no part of this way does
it get an action step. -/

/-- What becomes of a job in workflows. It stands in the workflow under the key as the second job:
it was put there, or was handed on from another workflow, or the env transfer has rewritten it. -/
inductive Arrives (start : Job) : Workflow → String → Job → Prop
  | put {name : Label} {jobs : Jobs} {env : OrderedMap String Value} {key : String} :
      jobs.get? key = some start →
      Arrives start (.ofJobs name jobs env) key { start with name := .text key }
  | handOn {w v : Workflow} {jobs : Jobs} {key key' : String} {job : Job} :
      Arrives start w key job → jobs.get? key' = some job →
      Arrives start (v.withJobs jobs) key' { job with name := .text key' }
  | rewrite {transfer : EnvTransfer} {w w' : Workflow} {key : String} {job job' : Job} :
      Arrives start w key job → transfer.apply w = .ok w' → w'.jobs.get? key = some job' →
      Arrives start w' key job'

/-- In the workflow, a job has the name of its key and is otherwise what it was. -/
theorem get?_ofJobs {name : Label} {jobs : Jobs} {env : OrderedMap String Value} {key : String}
    {job : Job} (h : jobs.get? key = some job) :
    (Workflow.ofJobs name jobs env).jobs.get? key = some { job with name := .text key } := by
  show (Workflow.rename jobs).get? key = _
  unfold Workflow.rename
  rw [OrderedMap.get?_map, h]
  rfl

/-- The job that arrives is the one that the workflow has under its key. -/
theorem Arrives.get? {start job : Job} {w : Workflow} {key : String} (h : Arrives start w key job) :
    w.jobs.get? key = some job := by
  cases h with
  | put hjob => exact get?_ofJobs hjob
  | handOn _ hjob => exact get?_ofJobs hjob
  | rewrite _ _ hjob => exact hjob

/-- No way through workflows brings a collision into a job. Induction on the way. -/
theorem Arrives.uncollided {start job : Job} {w : Workflow} {key : String}
    (h : Arrives start w key job) (hstart : Uncollided start.steps) : Uncollided job.steps := by
  induction h with
  | put _ => exact hstart
  | handOn _ _ ih => exact ih
  | @rewrite transfer w w' key job job' hjob happly hjob' ih =>
    -- the job that stands under the key is the rewritten one
    obtain ⟨-, rfl⟩ := EnvTransfer.apply_eq_ok_iff.mp happly
    rw [EnvTransfer.get?_extend, hjob.get?] at hjob'
    obtain rfl := Option.some.inj hjob'
    exact ih.transformJob transfer _ key

/-- A job that arrives in a workflow also arrives in the transferred one, with the steps that the
transfer adds. -/
theorem Arrives.extend {start job : Job} {w : Workflow} {key : String} (h : Arrives start w key job)
    (transfer : EnvTransfer) (hneeds : EnvTransfer.HasFixedNeeds w) :
    Arrives start (transfer.extend w) key
      (transfer.transformJob (EnvTransfer.producerNames w.jobs) key job) := by
  refine .rewrite h (EnvTransfer.apply_eq_ok_iff.mpr ⟨hneeds, rfl⟩) ?_
  rw [EnvTransfer.get?_extend, h.get?]
  rfl

/-! ## The reference check -/

namespace Validation

/-- The issues of a rejected workflow are those of the job that is named. -/
theorem issues_of_rejected {issuesOf : Label → Job → Except Failure (List Failure)}
    {title found key : String} {w : Workflow} {issues : List Failure}
    (h : check title issuesOf w = .ok (.rejected found (.text key) issues)) :
    ∃ job, w.jobs.get? key = some job ∧ issuesOf (.text key) job = .ok issues := by
  obtain ⟨rejected, hfirst, h⟩ := Success.bind_eq_ok.mp h
  cases rejected with
  | none => cases h
  | some rejected =>
    obtain ⟨name, found⟩ := rejected
    cases h
    obtain ⟨before, key', job, after, hjobs, -, hissues, -, hname⟩ :=
      firstRejection_eq_some_iff.mp hfirst
    cases hname
    refine ⟨job, OrderedMap.get?_eq_some_iff.mpr ?_, hissues⟩
    rw [hjobs]
    exact List.mem_append_right _ List.mem_cons_self

/-- The issues of a job without a collision are unknown references. -/
theorem eq_unknownRefs_of_uncollided {name : Label} {job : Job} {issues : List Failure}
    (h : refIssues name job = .ok issues) (hjob : Uncollided job.steps) :
    issues = unknownRefs name job := by
  obtain ⟨-, -, rfl⟩ := refIssues_eq_ok_iff.mp h
  have hnone : collisions name job.steps = [] :=
    collisions_eq_nil_iff.mpr (nodup_stems_iff.mp hjob.nodup)
  rw [refViolations, hnone, List.nil_append]

/-- A collision is no unknown reference, so it is told from the other issues of the reference
pass. -/
theorem collision_not_mem_unknownRefs (name : Label) (job : Job) (owner step stem : Label)
    (indices : List Value) :
    Failure.generatedNameCollision owner step stem indices ∉ unknownRefs name job := by
  intro hmem
  obtain ⟨site, -, hsite⟩ := List.mem_filterMap.mp hmem
  unfold RefSite.issue? at hsite
  split at hsite
  · cases hsite
  · cases hsite

end Validation

/-- **Stems that action steps share.** The scan reports the stems that stand at several positions of
action steps, each once, with all these positions. A compiled job has no such stem, and none comes
into it on its way through workflows, so that the reference check reports no collision for it. The
way is `Arrives`: put into a workflow under a key, carried through transfers, put into another
workflow. Each of its rules keeps the stems. -/
theorem nameCollisions_report :
    (∀ (job : Label) (steps : List Step), NamedByTexts steps →
        (∃ shared, Shares steps shared
          ∧ nameCollisions job steps = .ok (shared.map (collisionAt job)))
        ∧ (nameCollisions job steps = .ok [] ↔ DistinctStems steps))
    ∧ ∀ (template : JobTemplate) (invocation : Invocation) (start : Job),
        template.compile invocation = .ok start →
        (∀ name, nameCollisions name start.steps = .ok [])
        ∧ ∀ (w : Workflow) (key : String) (job : Job), Arrives start w key job →
            w.jobs.get? key = some job
            ∧ (∀ name, nameCollisions name job.steps = .ok [])
            ∧ ∀ title issues,
                Validation.checkStepRefs w = .ok (.rejected title (.text key) issues) →
                ∀ owner step stem indices,
                  Failure.generatedNameCollision owner step stem indices ∉ issues := by
  constructor
  · intro job steps htexts
    refine ⟨⟨sharedStems steps, shares_sharedStems steps, ?_⟩, ?_⟩
    · exact nameCollisions_eq_ok_iff.mpr ⟨htexts, (collisions_eq_map job steps).symm⟩
    · rw [nameCollisions_eq_nil_iff, ← nodup_stems_iff]
      exact ⟨fun h => h.nodup, fun h => ⟨htexts, h⟩⟩
  · intro template invocation start hcompile
    have hstart := uncollided_of_compile hcompile
    refine ⟨fun name => nameCollisions_eq_nil_iff.mpr hstart, fun w key job hjob => ?_⟩
    have hnone := hjob.uncollided hstart
    refine ⟨hjob.get?, fun name => nameCollisions_eq_nil_iff.mpr hnone, ?_⟩
    intro title issues hrejected owner step stem indices
    obtain ⟨job', hget, hissues⟩ := Validation.issues_of_rejected hrejected
    rw [hjob.get?] at hget
    obtain rfl := Option.some.inj hget
    rw [Validation.eq_unknownRefs_of_uncollided hissues hnone]
    exact Validation.collision_not_mem_unknownRefs _ _ owner step stem indices

/-! ## A stem at two positions, and a job that is rewritten twice -/

/-- Two action steps with one stem, and a command of the same name between them. -/
def buildSteps : List Step :=
  [(Action.oneOutputCall "build-app" "tag").step, Step.plain (.text "build-app") (.text "make"),
    (Action.oneOutputCall "build_app" "tag").step]

/-- A template of a job that hands over a tag. -/
def taggedTemplate : JobTemplate where
  name := .text "build"
  steps := .fixed [(Action.oneOutputCall "make-tag" "tag").step]
  envOutputs := ["tag"]
  executor := .text "local"

/-- Of three steps with one stem the one that no action has made is passed over, and the other two
are reported. A job that was compiled is still without a collision after two transfers. -/
theorem nameCollisions_report_build :
    (∃ shared, Shares buildSteps shared ∧ "build_app" ∈ shared.map Prod.fst
        ∧ nameCollisions (.text "build") buildSteps =
            .ok (shared.map (collisionAt (.text "build"))))
    ∧ ∃ start w job, taggedTemplate.compile ∅ = .ok start ∧ Arrives start w "pack" job
        ∧ job.steps.length = 3 ∧ nameCollisions job.name job.steps = .ok [] := by
  obtain ⟨hreport, hcompiled⟩ := nameCollisions_report
  constructor
  · have htexts : NamedByTexts buildSteps := by
      intro step hstep haction
      simp only [buildSteps, List.mem_cons, List.not_mem_nil, or_false] at hstep
      rcases hstep with rfl | rfl | rfl
      · exact ⟨_, rfl⟩
      · cases haction
      · exact ⟨_, rfl⟩
    obtain ⟨⟨shared, hshares, hscan⟩, -⟩ := hreport (.text "build") buildSteps htexts
    refine ⟨shared, hshares, (hshares.mem_iff "build_app").mpr ?_, hscan⟩
    exact ⟨0, 2, by decide, ⟨_, rfl, by decide⟩, ⟨_, rfl, by decide⟩⟩
  · obtain ⟨start, hstart, hneeds⟩ : ∃ start,
        taggedTemplate.compile ∅ = .ok start ∧ start.needs = [] :=
      ⟨_, rfl, rfl⟩
    let w := Workflow.ofJobs (.text "ci") (OrderedMap.ofList [("pack", start)]) ∅
    have hfixed : EnvTransfer.HasFixedNeeds w := by
      intro e he need hneed
      cases List.mem_singleton.mp he
      change need ∈ start.needs at hneed
      rw [hneeds] at hneed
      cases hneed
    have hput : Arrives start w "pack" { start with name := .text "pack" } := .put rfl
    have honce := hput.extend {} hfixed
    have htwice := honce.extend {} (EnvTransfer.hasFixedNeeds_extend hfixed)
    obtain ⟨-, hnone, -⟩ := (hcompiled taggedTemplate ∅ start hstart).2 _ _ _ htwice
    refine ⟨start, _, _, hstart, htwice, ?_, hnone _⟩
    cases hstart
    rfl

end ShellFlow

import Mathlib.Data.List.Pairwise
import ShellFlow.Proofs.Transfer.Jobs
import ShellFlow.Proofs.Validation.Passes

/-!
# Artifacts across the jobs

When a workflow is made, no two of its jobs may make an artifact of one name. This is looked at once,
before the extensions run, and the env transfer adds artifacts later. So here it is followed through
the extensions which artifacts a job makes, and said in which jobs of the result a name stands twice.

* **`checkArtifacts_eq_ok_iff`** — what the check of the artifact names lets through.
* **`makes_apply_iff`**, **`makes_applyAll_iff`** — the artifacts after one extension, and after all.
* **`make_shares_iff`** — the artifacts that two jobs of a workflow share.
-/

namespace ShellFlow

/-- The extensions that come with the library. -/
inductive Extension.IsBuiltIn : Extension → Prop
  | types : IsBuiltIn Validation.typeExtension
  | stepRefs : IsBuiltIn Validation.stepRefExtension
  | full : IsBuiltIn Validation.fullExtension
  | transfer (transfer : EnvTransfer) : IsBuiltIn transfer.asExtension

namespace Workflow

open EnvTransfer

def Makes (jobs : Jobs) (name artifact : String) : Prop :=
  ∃ job, jobs.get? name = some job ∧ artifact ∈ job.outputs.keys

/-- The artifact is the one in which the job of the name hands over its env outputs. -/
def HandsOver (jobs : Jobs) (name artifact : String) : Prop :=
  IsProducer jobs name ∧ artifact = outputArtifact name

def HasTransfer (extensions : List Extension) : Prop :=
  ∃ transfer : EnvTransfer, transfer.asExtension ∈ extensions

/-! ## The check of the names -/

/-- No name is reported exactly if none stands twice. -/
theorem repeated_eq_nil_iff {names : List String} : repeated names = [] ↔ names.Nodup := by
  rw [← repeatedItems_eq_nil_iff]
  unfold repeated Failure.sortNames
  constructor
  · intro h
    have hperm := List.mergeSort_perm (names.eraseDups.filter fun name => names.count name > 1)
      fun a b => decide (a ≤ b)
    rw [h] at hperm
    exact hperm.nil_eq.symm
  · intro h
    have hnone : (names.eraseDups.filter fun name => decide (names.count name > 1)) = [] := h
    rw [hnone, List.mergeSort_nil]

/-- The check lets jobs through exactly if no two of them make an artifact of one name. -/
theorem checkArtifacts_eq_ok_iff {jobs : Jobs} :
    checkArtifacts jobs = .ok () ↔
      ∀ k l artifact, Makes jobs k artifact → Makes jobs l artifact → k = l := by
  have hnodup : checkArtifacts jobs = .ok () ↔ (artifactNames jobs).Nodup := by
    rw [← repeated_eq_nil_iff]
    unfold checkArtifacts
    cases repeated (artifactNames jobs) <;> simp
  rw [hnodup, artifactNames, OrderedMap.values, List.flatMap_map, List.nodup_flatMap]
  constructor
  · rintro ⟨-, hdisjoint⟩ k l artifact ⟨job, hk, hmem⟩ ⟨job', hl, hmem'⟩
    by_contra hne
    have hentries : (k, job) ≠ (l, job') := fun h => hne (congrArg Prod.fst h)
    have hsymm : Std.Symm fun e e' : String × Job =>
        e.2.outputs.keys.Disjoint e'.2.outputs.keys :=
      ⟨fun _ _ h _ hmem hmem' => h hmem' hmem⟩
    exact List.Pairwise.forall hdisjoint (OrderedMap.get?_eq_some_iff.mp hk)
      (OrderedMap.get?_eq_some_iff.mp hl) hentries hmem hmem'
  · intro h
    refine ⟨fun e _ => e.2.outputs.nodup_keys, ?_⟩
    refine (List.pairwise_map.mp jobs.nodup_keys).imp_of_mem ?_
    intro e e' he he' hne artifact hmem hmem'
    exact hne (h e.1 e'.1 artifact ⟨e.2, OrderedMap.get?_eq_some_iff.mpr he, hmem⟩
      ⟨e'.2, OrderedMap.get?_eq_some_iff.mpr he', hmem'⟩)

/-! ## One extension

The checks leave a workflow alone, and a transfer adds one artifact to each job with env outputs. -/

/-- Giving each job the name under which it is kept does not touch its artifacts. -/
theorem makes_rename {jobs : Jobs} {name artifact : String} :
    Makes (rename jobs) name artifact ↔ Makes jobs name artifact := by
  unfold Makes rename
  simp [OrderedMap.get?_map]

theorem isProducer_rename {jobs : Jobs} {name : String} :
    IsProducer (rename jobs) name ↔ IsProducer jobs name := by
  unfold IsProducer rename
  simp [OrderedMap.get?_map, Job.envOutputs]

/-- **The artifacts of a job after a transfer**: those it had, and the one in which it hands over
its env outputs if it has any. -/
theorem makes_extend (transfer : EnvTransfer) {w : Workflow} {name artifact : String} :
    Makes (transfer.extend w).jobs name artifact ↔
      Makes w.jobs name artifact ∨ HandsOver w.jobs name artifact := by
  unfold Makes HandsOver
  rw [get?_extend]
  cases hjob : w.jobs.get? name with
  | none => simp [IsProducer, hjob]
  | some job =>
    have hkeys := (extends_transformJob transfer hjob).outputs_keys
    rw [isProducer_iff hjob]
    simp only [Option.map_some, Option.some.injEq, exists_eq_left', hkeys]
    by_cases hadded : job.envOutputs ≠ [] ∧ outputArtifact name ∉ job.outputs.keys
    · rw [if_pos hadded]
      simp [hadded.1]
    · -- nothing is added: there are no env outputs, or the artifact is replaced
      rw [if_neg hadded]
      constructor
      · exact Or.inl
      · rintro (hmem | ⟨houtputs, rfl⟩)
        · exact hmem
        · exact not_not.mp fun hmem => hadded ⟨houtputs, hmem⟩

/-- What a built-in extension does to the artifacts of the jobs, and to which of them have env
outputs. -/
theorem makes_apply_iff {extension : Extension} (hbuiltIn : extension.IsBuiltIn) {w v : Workflow}
    (h : (extension.apply w).result = .ok v) :
    (∀ name artifact, Makes v.jobs name artifact ↔
      Makes w.jobs name artifact
        ∨ HasTransfer [extension] ∧ HandsOver w.jobs name artifact)
    ∧ ∀ name, IsProducer v.jobs name ↔ IsProducer w.jobs name := by
  -- a check is told from a transfer by its name
  have hcheck : extension.name ≠ "EnvOutputsExtension" → v = w →
      (∀ name artifact, Makes v.jobs name artifact ↔ Makes w.jobs name artifact
        ∨ HasTransfer [extension] ∧ HandsOver w.jobs name artifact)
      ∧ ∀ name, IsProducer v.jobs name ↔ IsProducer w.jobs name := by
    rintro hname rfl
    have hnot : ¬ HasTransfer [extension] := by
      rintro ⟨transfer, htransfer⟩
      rw [← List.mem_singleton.mp htransfer] at hname
      exact hname rfl
    simp [hnot]
  cases hbuiltIn with
  | types =>
    rw [Validation.typeExtension, Extension.result_ofPass] at h
    exact hcheck (by decide) (Validation.validateTypes_eq_ok_iff.mp h).1
  | stepRefs =>
    rw [Validation.stepRefExtension, Extension.result_ofPass] at h
    exact hcheck (by decide) (Validation.validateStepRefs_eq_ok_iff.mp h).1
  | full =>
    rw [Validation.fullExtension, Extension.result_ofPass] at h
    exact hcheck (by decide) (Validation.validate_eq_ok_iff.mp h).1
  | transfer transfer =>
    rw [EnvTransfer.asExtension, Extension.result_ofPass] at h
    obtain ⟨-, rfl⟩ := apply_eq_ok_iff.mp h
    have htransfer : HasTransfer [transfer.asExtension] := ⟨transfer, List.mem_singleton_self _⟩
    refine ⟨?_, fun name => isProducer_extend transfer⟩
    intro name artifact
    rw [makes_extend]
    simp [htransfer]

/-! ## All extensions -/

/-- A transfer is among some extensions if it is the first of them or among the rest. -/
theorem hasTransfer_cons (extension : Extension) (rest : List Extension) :
    HasTransfer (extension :: rest) ↔ HasTransfer [extension] ∨ HasTransfer rest := by
  unfold HasTransfer
  simp only [List.mem_cons, List.not_mem_nil, or_false, exists_or]

/-- The artifacts after some built-in extensions. Induction on the extensions. -/
theorem makes_applyAll_iff {extensions : List Extension}
    (hbuiltIn : ∀ extension ∈ extensions, extension.IsBuiltIn) {w v : Workflow}
    (h : (Pipeline.applyAll extensions w).result = .ok v) {name artifact : String} :
    Makes v.jobs name artifact ↔
      Makes w.jobs name artifact ∨ HasTransfer extensions ∧ HandsOver w.jobs name artifact := by
  induction extensions generalizing w with
  | nil =>
    cases h
    simp [HasTransfer]
  | cons extension rest ih =>
    obtain ⟨hhead, hrest⟩ := List.forall_mem_cons.mp hbuiltIn
    rw [Pipeline.result_cons, Success.bind_eq_ok] at h
    obtain ⟨u, hu, hv⟩ := h
    obtain ⟨hmakes, hproducers⟩ := makes_apply_iff hhead hu
    -- the same jobs have env outputs after each extension, so a second transfer adds nothing
    have hhands : HandsOver u.jobs name artifact ↔ HandsOver w.jobs name artifact :=
      and_congr_left' (hproducers name)
    rw [ih hrest hv, hmakes, hhands, hasTransfer_cons extension rest, or_and_right, or_assoc]

/-! ## Making a workflow -/

/-- **When a workflow can be made**: its name is not empty, no two jobs share an artifact, and the
extensions succeed. The artifacts are looked at before the extensions run, and not again. -/
theorem make_eq_ok_iff {name : Label} {jobs : Jobs} {extensions : List Extension}
    {env : OrderedMap String Value} {w : Workflow} :
    (make name (some jobs) extensions env).result = .ok w ↔
      name.isTruthy = true ∧ checkArtifacts jobs = .ok ()
        ∧ (Pipeline.applyAll extensions (ofJobs name jobs env)).result = .ok w := by
  unfold make
  cases name.isTruthy with
  | false => simp [Traced.fail]
  | true =>
    cases hcheck : checkArtifacts jobs with
    | error e => simp [Traced.bind, Traced.ofExcept, hcheck]
    | ok _ => simp [Traced.bind, Traced.ofExcept, hcheck]

/-- **Which artifacts two jobs of a workflow can share.** In a workflow that was made with built-in
extensions they share one exactly if a transfer was among the extensions and one of the jobs was
given an artifact under the name in which the other hands over its env outputs. Two given ones were
refused before the extensions ran, and two added ones are named for different jobs, so one of each
kind is all that is left. -/
theorem make_shares_iff {name : Label} {jobs : Jobs} {extensions : List Extension}
    {env : OrderedMap String Value} {w : Workflow}
    (hbuiltIn : ∀ extension ∈ extensions, extension.IsBuiltIn)
    (hw : (make name (some jobs) extensions env).result = .ok w) {k l artifact : String}
    (hne : k ≠ l) :
    (Makes w.jobs k artifact ∧ Makes w.jobs l artifact) ↔
      HasTransfer extensions
        ∧ (HandsOver jobs k artifact ∧ Makes jobs l artifact
          ∨ HandsOver jobs l artifact ∧ Makes jobs k artifact) := by
  obtain ⟨-, hunique, hrun⟩ := make_eq_ok_iff.mp hw
  have hmakes : ∀ key, Makes w.jobs key artifact ↔
      Makes jobs key artifact ∨ HasTransfer extensions ∧ HandsOver jobs key artifact := by
    intro key
    rw [makes_applyAll_iff hbuiltIn hrun]
    show Makes (rename jobs) key artifact ∨ _ ∧ IsProducer (rename jobs) key ∧ _ ↔ _
    rw [makes_rename, isProducer_rename]
    rfl
  have hgiven : ¬ (Makes jobs k artifact ∧ Makes jobs l artifact) := fun h =>
    hne (checkArtifacts_eq_ok_iff.mp hunique k l artifact h.1 h.2)
  have hadded : ¬ (HandsOver jobs k artifact ∧ HandsOver jobs l artifact) := by
    rintro ⟨⟨-, hk⟩, -, hl⟩
    exact hne (outputArtifact_injective (hk.symm.trans hl))
  -- so one of the two jobs was given the artifact, and the other one got it from a transfer
  rw [hmakes, hmakes]
  tauto

/-! ## Two jobs that share an artifact -/

/-- The first job hands over a tag, and the second reports under the name that this has. -/
def reportJobs : Jobs :=
  OrderedMap.ofList
    [("build", relayJob "build" []),
      ("test",
        { relayJob "test" [] with
          outputs := OrderedMap.ofList [("__envOutputs_build", .text "report")]
          info := none })]

theorem checkArtifacts_reportJobs : checkArtifacts reportJobs = .ok () := by
  have hmakes : ∀ name artifact, Makes reportJobs name artifact → name = "test" := by
    rintro name artifact ⟨job, hjob, hmem⟩
    rcases List.mem_cons.mp (OrderedMap.get?_eq_some_iff.mp hjob) with h | h
    · cases h
      cases hmem
    · cases List.mem_singleton.mp h
      rfl
  rw [checkArtifacts_eq_ok_iff]
  intro k l artifact hk hl
  rw [hmakes k artifact hk, hmakes l artifact hl]

/-- After it both make the artifact under which the first hands over its outputs. -/
theorem make_shares_reportJobs :
    ∃ w, (make (.text "ci") (some reportJobs) [EnvTransfer.asExtension {}] ∅).result = .ok w
      ∧ Makes w.jobs "build" "__envOutputs_build" ∧ Makes w.jobs "test" "__envOutputs_build" := by
  have hbuiltIn : ∀ extension ∈ [EnvTransfer.asExtension {}], extension.IsBuiltIn := by
    intro extension h
    rw [List.mem_singleton.mp h]
    exact .transfer {}
  have hmake : (make (.text "ci") (some reportJobs) [EnvTransfer.asExtension {}] ∅).result =
      .ok (EnvTransfer.extend {} (ofJobs (.text "ci") reportJobs ∅)) :=
    make_eq_ok_iff.mpr ⟨rfl, checkArtifacts_reportJobs, rfl⟩
  have hne : "build" ≠ "test" := by decide
  refine ⟨_, hmake, (make_shares_iff hbuiltIn hmake hne).mpr ⟨⟨{}, List.mem_singleton_self _⟩, ?_⟩⟩
  refine Or.inl ⟨⟨⟨relayJob "build" [], rfl, List.cons_ne_nil _ _⟩, rfl⟩, ?_⟩
  exact ⟨_, rfl, List.mem_singleton_self _⟩

end Workflow

end ShellFlow

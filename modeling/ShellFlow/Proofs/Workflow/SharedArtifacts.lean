import ShellFlow.Proofs.SortedNames
import ShellFlow.Proofs.Workflow.Artifacts

/-!
# Artifacts that jobs share

The check of the artifact names counts how often each stands among those of all jobs. A job lists
each of its artifacts once, so a name is counted twice exactly if two jobs make it. The check
therefore depends only on which job makes which artifact, and not on any order.

* **`one_lt_count_iff`** — what is counted twice, by induction on the jobs.
* **`repeated_artifactNames`** — the names that are reported.
* **`checkArtifacts_congr`** — jobs that make the same artifacts are checked alike.
-/

namespace ShellFlow.Workflow

open EnvTransfer

variable {jobs jobs' : Jobs} {artifact : String}

/-- Two jobs under different names make the artifact. -/
def Shares (jobs : Jobs) (artifact : String) : Prop :=
  ∃ k l, k ≠ l ∧ Makes jobs k artifact ∧ Makes jobs l artifact

/-- The same jobs in any order, each with its artifacts in any order. -/
structure Reorders (jobs jobs' : Jobs) : Prop where
  keys : jobs'.keys.Perm jobs.keys
  outputs : ∀ key job, jobs.get? key = some job → ∃ outputs,
    outputs.entries.Perm job.outputs.entries
      ∧ jobs'.get? key = some { job with outputs := outputs }

/-! ## Counting

The check counts names in one list, of all jobs together. An artifact is there once for each job
that makes it, since a job has each of its artifacts once. -/

/-- An artifact is among those of some jobs exactly if one of the jobs makes it. -/
theorem one_le_count_iff {entries : List (String × Job)} :
    1 ≤ (entries.flatMap fun e => e.2.outputs.keys).count artifact ↔
      ∃ e ∈ entries, artifact ∈ e.2.outputs.keys := by
  rw [List.one_le_count_iff, List.mem_flatMap]

/-- **An artifact stands twice exactly if two jobs make it.** One job makes an artifact at most
once, so counting the names counts the jobs. Induction on the jobs. -/
theorem one_lt_count_iff {entries : List (String × Job)} (hkeys : (entries.map Prod.fst).Nodup) :
    1 < (entries.flatMap fun e => e.2.outputs.keys).count artifact ↔
      ∃ e ∈ entries, ∃ e' ∈ entries, e.1 ≠ e'.1 ∧ artifact ∈ e.2.outputs.keys
        ∧ artifact ∈ e'.2.outputs.keys := by
  induction entries with
  | nil => simp
  | cons first rest ih =>
    rw [List.map_cons, List.nodup_cons] at hkeys
    -- the first job adds at most one to the count
    have hfew : first.2.outputs.keys.count artifact ≤ 1 :=
      List.nodup_iff_count_le_one.mp first.2.outputs.nodup_keys artifact
    have hown : 1 ≤ first.2.outputs.keys.count artifact ↔ artifact ∈ first.2.outputs.keys :=
      List.one_le_count_iff
    have hapart : ∀ e ∈ rest, first.1 ≠ e.1 := fun e he heq =>
      hkeys.1 (heq ▸ List.mem_map_of_mem he)
    rw [List.flatMap_cons, List.count_append]
    constructor
    · intro hcount
      by_cases hmany : 1 < (rest.flatMap fun e => e.2.outputs.keys).count artifact
      · obtain ⟨e, he, e', he', hne, hmem, hmem'⟩ := (ih hkeys.2).mp hmany
        exact ⟨e, List.mem_cons_of_mem _ he, e', List.mem_cons_of_mem _ he', hne, hmem, hmem'⟩
      · have hone : 1 ≤ (rest.flatMap fun e => e.2.outputs.keys).count artifact := by omega
        obtain ⟨e, he, hmem⟩ := one_le_count_iff.mp hone
        exact ⟨first, List.mem_cons_self, e, List.mem_cons_of_mem _ he, hapart e he,
          hown.mp (by omega), hmem⟩
    · rintro ⟨e, he, e', he', hne, hmem, hmem'⟩
      rcases List.mem_cons.mp he with rfl | hrest
      · have hlater := List.mem_of_ne_of_mem (fun heq => hne (congrArg Prod.fst heq.symm)) he'
        have hone := one_le_count_iff.mpr ⟨e', hlater, hmem'⟩
        have := hown.mpr hmem
        omega
      · rcases List.mem_cons.mp he' with rfl | hrest'
        · have hone := one_le_count_iff.mpr ⟨e, hrest, hmem⟩
          have := hown.mpr hmem'
          omega
        · have := (ih hkeys.2).mpr ⟨e, hrest, e', hrest', hne, hmem, hmem'⟩
          omega

/-- The same of the jobs of a workflow, with their keys. -/
theorem one_lt_count_artifactNames_iff :
    1 < (artifactNames jobs).count artifact ↔ Shares jobs artifact := by
  rw [artifactNames, OrderedMap.values, List.flatMap_map, one_lt_count_iff jobs.nodup_keys]
  constructor
  · rintro ⟨e, he, e', he', hne, hmem, hmem'⟩
    exact ⟨e.1, e'.1, hne, ⟨e.2, OrderedMap.get?_eq_some_iff.mpr he, hmem⟩,
      ⟨e'.2, OrderedMap.get?_eq_some_iff.mpr he', hmem'⟩⟩
  · rintro ⟨k, l, hne, ⟨job, hk, hmem⟩, job', hl, hmem'⟩
    exact ⟨(k, job), OrderedMap.get?_eq_some_iff.mp hk, (l, job'),
      OrderedMap.get?_eq_some_iff.mp hl, hne, hmem, hmem'⟩

/-! ## The reported names -/

/-- What is reported are the shared artifacts, each once and in order. -/
theorem repeated_artifactNames (jobs : Jobs) :
    (repeated (artifactNames jobs)).Pairwise (· < ·)
      ∧ ∀ artifact, artifact ∈ repeated (artifactNames jobs) ↔ Shares jobs artifact := by
  constructor
  · exact pairwise_sortNames ((nodup_eraseDups _).filter _)
  · intro artifact
    rw [repeated, mem_sortNames_iff, List.mem_filter, List.mem_eraseDups, decide_eq_true_iff,
      gt_iff_lt, one_lt_count_artifactNames_iff]
    refine and_iff_right_of_imp fun hshares => List.count_pos_iff.mp ?_
    exact Nat.lt_of_succ_lt (one_lt_count_artifactNames_iff.mpr hshares)

/-- **The check depends only on which job makes which artifact.** Two reports in strict order that
have the same names are the same. -/
theorem checkArtifacts_congr (h : ∀ key artifact, Makes jobs' key artifact ↔ Makes jobs key artifact) :
    checkArtifacts jobs' = checkArtifacts jobs := by
  have hshares : ∀ artifact, Shares jobs' artifact ↔ Shares jobs artifact := by
    intro artifact
    simp only [Shares, h]
  obtain ⟨hsorted, hmem⟩ := repeated_artifactNames jobs
  obtain ⟨hsorted', hmem'⟩ := repeated_artifactNames jobs'
  have hperm : (repeated (artifactNames jobs')).Perm (repeated (artifactNames jobs)) := by
    rw [List.perm_ext_iff_of_nodup (nodup_of_pairwise_lt hsorted') (nodup_of_pairwise_lt hsorted)]
    intro artifact
    rw [hmem', hmem, hshares]
  have hsame : repeated (artifactNames jobs') = repeated (artifactNames jobs) :=
    @eq_of_perm_of_pairwise_lt _ id _ _ hperm hsorted' hsorted
  rw [checkArtifacts, checkArtifacts, hsame]

theorem Reorders.makes_iff (h : Reorders jobs jobs') (key artifact : String) :
    Makes jobs' key artifact ↔ Makes jobs key artifact := by
  cases hjob : jobs.get? key with
  | none =>
    have hnone : jobs'.get? key = none := by
      rw [OrderedMap.get?_eq_none_iff] at hjob ⊢
      exact fun hmem => hjob (h.keys.mem_iff.mp hmem)
    simp [Makes, hjob, hnone]
  | some job =>
    obtain ⟨outputs, hperm, hjob'⟩ := h.outputs key job hjob
    have hkeys : artifact ∈ outputs.keys ↔ artifact ∈ job.outputs.keys :=
      (hperm.map Prod.fst).mem_iff
    simp [Makes, hjob, hjob', hkeys]

/-- **The check of the artifact names.** It fails exactly if two jobs make an artifact of one name.
The failure then lists the names that two jobs have, each once and in order, and jobs and artifacts
in another order are checked with the same outcome. The report is sorted, so it is fixed by which
names are in it: `eq_of_perm_of_pairwise_lt`. -/
theorem checkArtifacts_outcome (jobs : Jobs) :
    ((∃ failure, checkArtifacts jobs = .error failure) ↔ ∃ artifact, Shares jobs artifact)
    ∧ (∀ failure, checkArtifacts jobs = .error failure →
        ∃ names : List String, failure = .duplicateArtifact (.ofTexts names)
          ∧ names.Pairwise (· < ·) ∧ ∀ artifact, artifact ∈ names ↔ Shares jobs artifact)
    ∧ ∀ jobs', Reorders jobs jobs' → checkArtifacts jobs' = checkArtifacts jobs := by
  obtain ⟨hsorted, hmem⟩ := repeated_artifactNames jobs
  have hfails : ∀ failure, checkArtifacts jobs = .error failure ↔
      repeated (artifactNames jobs) ≠ []
        ∧ failure = .duplicateArtifact (.ofTexts (repeated (artifactNames jobs))) := by
    intro failure
    unfold checkArtifacts
    cases repeated (artifactNames jobs) <;> simp [eq_comm]
  refine ⟨?_, ?_, fun jobs' h => checkArtifacts_congr h.makes_iff⟩
  · simp only [hfails, exists_and_left, exists_eq, and_true, ← hmem]
    exact ⟨List.exists_mem_of_ne_nil _, fun ⟨_, hmem⟩ => List.ne_nil_of_mem hmem⟩
  · intro failure h
    exact ⟨_, ((hfails failure).mp h).2, hsorted, hmem⟩

/-! ## Two jobs that write one log -/

def loggingJob (name : String) (artifacts : List String) : Job :=
  { relayJob name [] with
    outputs := OrderedMap.ofList (artifacts.map fun artifact => (artifact, .text artifact)) }

def loggingJobs : Jobs :=
  OrderedMap.ofList
    [("build", loggingJob "build" ["program", "log"]), ("test", loggingJob "test" ["log"])]

def reorderedJobs : Jobs :=
  OrderedMap.ofList
    [("test", loggingJob "test" ["log"]), ("build", loggingJob "build" ["log", "program"])]

/-- Both jobs make a log. It is reported whichever of them comes first. -/
theorem checkArtifacts_outcome_logging :
    (∃ names : List String,
        checkArtifacts loggingJobs = .error (.duplicateArtifact (.ofTexts names)) ∧ "log" ∈ names
          ∧ names.Pairwise (· < ·))
      ∧ Reorders loggingJobs reorderedJobs
      ∧ checkArtifacts reorderedJobs = checkArtifacts loggingJobs := by
  obtain ⟨hfails, hnames, hreordered⟩ := checkArtifacts_outcome loggingJobs
  have hshares : Shares loggingJobs "log" :=
    ⟨"build", "test", by decide, ⟨_, rfl, by decide⟩, ⟨_, rfl, by decide⟩⟩
  have hreorders : Reorders loggingJobs reorderedJobs := by
    constructor
    · exact List.Perm.swap _ _ _
    · intro key job hjob
      rcases List.mem_cons.mp (OrderedMap.get?_eq_some_iff.mp hjob) with h | h
      · cases h
        exact ⟨_, List.Perm.swap _ _ _, rfl⟩
      · cases List.mem_singleton.mp h
        exact ⟨_, .refl _, rfl⟩
  obtain ⟨failure, hfailure⟩ := hfails.mpr ⟨"log", hshares⟩
  obtain ⟨names, rfl, hsorted, hmem⟩ := hnames failure hfailure
  exact ⟨⟨names, hfailure, (hmem "log").mpr hshares, hsorted⟩, hreorders,
    hreordered _ hreorders⟩

end ShellFlow.Workflow

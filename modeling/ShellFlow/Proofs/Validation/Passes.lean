import ShellFlow.Proofs.Success
import ShellFlow.Validation

/-!
# Passes over the jobs of a workflow

Both checks of a workflow go over the jobs in order and stop at the first one with an issue. What a
pass accepts and what it reports is said here once, for any function that collects the issues of a
job.

* **`firstRejection_eq_none_iff`**, **`firstRejection_eq_some_iff`** — the pass, by induction on the
  jobs.
* **`pass_eq_ok_iff`** — the workflow comes back exactly if no job has an issue.
* **`pass_eq_self_iff`**, **`pass_of_firstUnsound`** — a pass of which it is known in which jobs it
  finds an issue.
* **`validate_eq_outcome`**, **`validate_eq_ok_iff`** — both passes in a row.
-/

namespace ShellFlow.Validation

section Passes

variable {issuesOf : Label → Job → Except Failure (List Failure)}

/-- No job is rejected exactly if no job has an issue. Induction on the jobs. -/
theorem firstRejection_eq_none_iff {jobs : List (String × Job)} :
    firstRejection issuesOf jobs = .ok none ↔ ∀ e ∈ jobs, issuesOf (.text e.1) e.2 = .ok [] := by
  induction jobs with
  | nil => exact iff_of_true rfl fun e he => absurd he List.not_mem_nil
  | cons e rest ih =>
    obtain ⟨key, job⟩ := e
    rw [firstRejection, Success.bind_eq_ok, List.forall_mem_cons, ← ih]
    constructor
    · rintro ⟨issues, hissues, h⟩
      cases issues with
      | nil => exact ⟨hissues, h⟩
      | cons issue more => cases h
    · rintro ⟨hissues, hrest⟩
      exact ⟨[], hissues, hrest⟩

/-- The rejected job is the first with an issue. Induction on the jobs. -/
theorem firstRejection_eq_some_iff {jobs : List (String × Job)} {name : Label}
    {issues : List Failure} :
    firstRejection issuesOf jobs = .ok (some (name, issues)) ↔
      ∃ before key job after, jobs = before ++ (key, job) :: after
        ∧ (∀ e ∈ before, issuesOf (.text e.1) e.2 = .ok [])
        ∧ issuesOf (.text key) job = .ok issues ∧ issues ≠ [] ∧ name = .text key := by
  induction jobs with
  | nil =>
    constructor
    · intro h
      cases h
    · rintro ⟨before, key, job, after, h, -⟩
      simp at h
  | cons e rest ih =>
    obtain ⟨key, job⟩ := e
    rw [firstRejection, Success.bind_eq_ok]
    constructor
    · rintro ⟨found, hfound, h⟩
      cases found with
      | nil =>
        obtain ⟨before, key', job', after, hrest, hbefore, hjob⟩ := ih.mp h
        refine ⟨(key, job) :: before, key', job', after, by rw [hrest]; rfl, ?_, hjob⟩
        exact List.forall_mem_cons.mpr ⟨hfound, hbefore⟩
      | cons issue more =>
        cases h
        exact ⟨[], key, job, rest, rfl, by simp, hfound, List.cons_ne_nil issue more, rfl⟩
    · rintro ⟨before, key', job', after, hjobs, hbefore, hissues, hne, rfl⟩
      cases before with
      | nil =>
        cases hjobs
        refine ⟨issues, hissues, ?_⟩
        cases issues with
        | nil => exact absurd rfl hne
        | cons issue more => rfl
      | cons first before =>
        obtain ⟨hfirst, hrest⟩ := List.cons.inj hjobs
        subst hfirst
        obtain ⟨hhead, hbefore⟩ := List.forall_mem_cons.mp hbefore
        exact ⟨[], hhead, ih.mpr ⟨before, key', job', after, hrest, hbefore, hissues, hne, rfl⟩⟩

/-- The failure that reports the issues of a job under a title. -/
def rejection (title key : String) (issues : List Failure) : Failure :=
  .validation (.text title) (.text key) issues

/-- A verdict about a job of the workflow is reported under the name of the job. -/
theorem failure_text (title key : String) (issues : List Failure) :
    Verdict.failure title (.text key) issues = rejection title key issues := by
  unfold Verdict.failure rejection
  split
  · rfl
  · rename_i h
    have hempty : key = "" := by simpa [Value.isTruthy] using h
    rw [hempty]

/-- A pass gives the workflow itself, and does so exactly if no job has an issue. -/
theorem pass_eq_ok_iff {title : String} {w w' : Workflow} :
    (check title issuesOf w >>= Verdict.unwrap) = .ok w' ↔
      w' = w ∧ ∀ e ∈ w.jobs.entries, issuesOf (.text e.1) e.2 = .ok [] := by
  rw [← firstRejection_eq_none_iff]
  unfold check
  simp only [Success.bind_eq_ok]
  constructor
  · rintro ⟨verdict, ⟨found, hfound, hverdict⟩, h⟩
    cases found with
    | none =>
      cases hverdict
      cases h
      exact ⟨rfl, hfound⟩
    | some rejected =>
      cases hverdict
      cases h
  · rintro ⟨rfl, h⟩
    exact ⟨.accepted w', ⟨none, h, rfl⟩, rfl⟩

/-- A check that accepts a workflow gives back that workflow; validation changes nothing. -/
theorem accepted_eq {title : String} {w v : Workflow}
    (h : check title issuesOf w = .ok (.accepted v)) : v = w := by
  obtain ⟨rejected, -, h⟩ := Success.bind_eq_ok.mp h
  cases rejected with
  | none =>
    cases h
    rfl
  | some rejected => cases h

theorem exists_job_of_rejected {title found : String} {w : Workflow} {name : Label}
    {issues : List Failure} (h : check title issuesOf w = .ok (.rejected found name issues)) :
    ∃ key job, name = .text key ∧ w.jobs.get? key = some job := by
  obtain ⟨rejected, hfirst, h⟩ := Success.bind_eq_ok.mp h
  cases rejected with
  | none => cases h
  | some rejected =>
    cases h
    obtain ⟨before, key, job, after, hjobs, -, -, -, hname⟩ := firstRejection_eq_some_iff.mp hfirst
    refine ⟨key, job, hname, OrderedMap.get?_eq_some_iff.mpr ?_⟩
    rw [hjobs]
    exact List.mem_append_right _ List.mem_cons_self

/-! ## Passes that look for unsound jobs

Both passes report the issues of the first job that has any. What follows holds for every such pass,
and is used for the types and for the references. -/

/-- The job is the first without the property. -/
def FirstUnsound (Sound : Job → Prop) (jobs : List (String × Job)) (key : String) (job : Job) :
    Prop :=
  ∃ before after, jobs = before ++ (key, job) :: after ∧ (∀ e ∈ before, Sound e.2) ∧ ¬ Sound job

/-- If some job is unsound, there is a first one. Induction on the jobs in their order, which is the
one in which they are checked. -/
theorem exists_firstUnsound {Sound : Job → Prop} {jobs : List (String × Job)}
    (h : ∃ e ∈ jobs, ¬ Sound e.2) : ∃ key job, FirstUnsound Sound jobs key job := by
  induction jobs with
  | nil =>
    obtain ⟨e, he, -⟩ := h
    exact absurd he List.not_mem_nil
  | cons first rest ih =>
    by_cases hfirst : Sound first.2
    · have hrest : ∃ e ∈ rest, ¬ Sound e.2 := by
        obtain ⟨e, he, hunsound⟩ := h
        rcases List.mem_cons.mp he with rfl | he
        · exact absurd hfirst hunsound
        · exact ⟨e, he, hunsound⟩
      obtain ⟨key, job, before, after, hjobs, hbefore, hunsound⟩ := ih hrest
      refine ⟨key, job, first :: before, after, by rw [hjobs]; rfl, ?_, hunsound⟩
      exact List.forall_mem_cons.mpr ⟨hfirst, hbefore⟩
    · exact ⟨first.1, first.2, [], rest, rfl, by simp, hfirst⟩

variable {w : Workflow} {Sound : Job → Prop} {violations : Label → Job → List Failure}
  (hissues : ∀ e ∈ w.jobs.entries, issuesOf (.text e.1) e.2 = .ok (violations (.text e.1) e.2))
  (hsound : ∀ (name : Label) (job : Job), violations name job = [] ↔ Sound job)

include hissues hsound

/-- A job of the workflow has no issues exactly if it is sound. -/
theorem issuesOf_eq_ok_nil_iff {e : String × Job} (he : e ∈ w.jobs.entries) :
    issuesOf (.text e.1) e.2 = .ok [] ↔ Sound e.2 := by
  rw [hissues e he, Except.ok.injEq, hsound]

/-- A pass that finds the issues of unsound jobs accepts a workflow exactly if all jobs are sound. -/
theorem pass_eq_self_iff {title : String} :
    (check title issuesOf w >>= Verdict.unwrap) = .ok w ↔ ∀ e ∈ w.jobs.entries, Sound e.2 := by
  rw [pass_eq_ok_iff]
  constructor
  · intro h e he
    exact (issuesOf_eq_ok_nil_iff hissues hsound he).mp (h.2 e he)
  · intro h
    exact ⟨rfl, fun e he => (issuesOf_eq_ok_nil_iff hissues hsound he).mpr (h e he)⟩

/-- Such a pass fails with the issues of the first unsound job. -/
theorem pass_of_firstUnsound {title key : String} {job : Job}
    (h : FirstUnsound Sound w.jobs.entries key job) :
    (check title issuesOf w >>= Verdict.unwrap) =
      .error (rejection title key (violations (.text key) job)) := by
  obtain ⟨before, after, hjobs, hbefore, hunsound⟩ := h
  have hjob : (key, job) ∈ w.jobs.entries := hjobs ▸ List.mem_append_right _ List.mem_cons_self
  have hclean : ∀ e ∈ before, issuesOf (.text e.1) e.2 = .ok [] := by
    intro e he
    have hmem : e ∈ w.jobs.entries := hjobs ▸ List.mem_append_left _ he
    exact (issuesOf_eq_ok_nil_iff hissues hsound hmem).mpr (hbefore e he)
  have hne : violations (.text key) job ≠ [] := fun hnil => hunsound ((hsound _ _).mp hnil)
  have hfirst : firstRejection issuesOf w.jobs.entries =
      .ok (some (.text key, violations (.text key) job)) :=
    firstRejection_eq_some_iff.mpr
      ⟨before, key, job, after, hjobs, hclean, hissues (key, job) hjob, hne, rfl⟩
  unfold check
  rw [hfirst, ← failure_text]
  rfl

end Passes

/-- The type pass lets a workflow through, unchanged, if no job has a type issue. -/
theorem validateTypes_eq_ok_iff {w w' : Workflow} :
    validateTypes w = .ok w' ↔
      w' = w ∧ ∀ e ∈ w.jobs.entries, typeIssues (.text e.1) e.2 = .ok [] :=
  pass_eq_ok_iff

/-- The reference pass lets a workflow through, unchanged, if no job has a reference issue. -/
theorem validateStepRefs_eq_ok_iff {w w' : Workflow} :
    validateStepRefs w = .ok w' ↔
      w' = w ∧ ∀ e ∈ w.jobs.entries, refIssues (.text e.1) e.2 = .ok [] :=
  pass_eq_ok_iff

/-- The outcome of both checks, of which the second looks at what the first accepts. -/
def outcome (w : Workflow) : Except Failure Verdict := do
  match ← checkTypes w with
  | .accepted v => checkStepRefs v
  | rejected => .ok rejected

/-- Validation is the outcome of its two checks, turned into a workflow or a failure. The outcome
says more than the failure, which has the title and the issues in one text. -/
theorem validate_eq_outcome (w : Workflow) : validate w = (outcome w >>= Verdict.unwrap) := by
  unfold validate validateTypes outcome
  cases checkTypes w with
  | error e => rfl
  | ok verdict =>
    cases verdict with
    | accepted v => rfl
    | rejected title job issues => rfl

theorem exists_job_of_outcome {w : Workflow} {title : String} {name : Label}
    {issues : List Failure} (h : outcome w = .ok (.rejected title name issues)) :
    ∃ key job, name = .text key ∧ w.jobs.get? key = some job := by
  obtain ⟨verdict, htypes, hrefs⟩ := Success.bind_eq_ok.mp h
  cases verdict with
  | accepted v =>
    obtain rfl : v = w := accepted_eq htypes
    exact exists_job_of_rejected hrefs
  | rejected title' name' issues' =>
    cases hrefs
    exact exists_job_of_rejected htypes

theorem validate_of_error {w : Workflow} {e : Failure} (h : outcome w = .error e) :
    validate w = .error e := by
  rw [validate_eq_outcome, h]
  rfl

theorem validate_of_rejected {w : Workflow} {title key : String} {issues : List Failure}
    (h : outcome w = .ok (.rejected title (.text key) issues)) :
    validate w = .error (rejection title key issues) := by
  rw [validate_eq_outcome, h, ← failure_text]
  rfl

/-- Validation gives the workflow itself, and does so exactly if both passes let it through. -/
theorem validate_eq_ok_iff {w w' : Workflow} :
    validate w = .ok w' ↔ w' = w ∧ validateTypes w = .ok w ∧ validateStepRefs w = .ok w := by
  unfold validate
  rw [Success.bind_eq_ok]
  constructor
  · rintro ⟨checked, htypes, hrefs⟩
    obtain ⟨rfl, -⟩ := validateTypes_eq_ok_iff.mp htypes
    obtain ⟨rfl, -⟩ := validateStepRefs_eq_ok_iff.mp hrefs
    exact ⟨rfl, htypes, hrefs⟩
  · rintro ⟨rfl, htypes, hrefs⟩
    exact ⟨w', htypes, hrefs⟩

/-- A workflow passes validation exactly if the outcome is an acceptance. -/
theorem validate_eq_self_iff {w : Workflow} :
    validate w = .ok w ↔ ∃ v, outcome w = .ok (.accepted v) := by
  rw [validate_eq_outcome, Success.bind_eq_ok]
  constructor
  · rintro ⟨verdict, hverdict, h⟩
    cases verdict with
    | accepted v => exact ⟨v, hverdict⟩
    | rejected title name issues => cases h
  · rintro ⟨v, hv⟩
    have hvalidate : validate w = .ok v := by
      rw [validate_eq_outcome, hv]
      rfl
    obtain ⟨rfl, -⟩ := validate_eq_ok_iff.mp hvalidate
    exact ⟨_, hv, rfl⟩

end ShellFlow.Validation

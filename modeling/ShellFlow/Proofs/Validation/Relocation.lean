import ShellFlow.Proofs.Validation.Issues
import ShellFlow.Proofs.Validation.Passes

/-!
# Issues of relocated steps

An issue says at which position its step stands. When steps that no action has made are put around
those of a job, the checks find the same issues, at later positions, or fail in the same way. What the
checks of a job do with a position is one walk over its action steps, so this is proved for any such
walk, and then for the jobs of a workflow.

* **`walk_surround`** — a walk over the steps in between, from the steps around them.
* **`typeIssues_surrounds`**, **`refIssues_surrounds`** — the issues of a job.
* **`check_relocates`** — the outcome of a check of all jobs.
-/

namespace ShellFlow

/-- A position moved by `n`. -/
def Value.later (n : Nat) : Value → Value
  | .int i => .int (i + n)
  | value => value

/-- The failure with all positions of steps moved by `n`. -/
def Failure.later (n : Nat) : Failure → Failure
  | .missingRequiredInput owner input kind i => .missingRequiredInput owner input kind (i.later n)
  | .typeMismatch job i action input expected => .typeMismatch job (i.later n) action input expected
  | .unknownStepReference job step target input i =>
    .unknownStepReference job step target input (i.later n)
  | .generatedNameCollision job step stem indices =>
    .generatedNameCollision job step stem (indices.map (Value.later n))
  | failure => failure

theorem Value.later_zero (value : Value) : value.later 0 = value := by
  cases value <;> simp [Value.later]

theorem Failure.later_zero (failure : Failure) : failure.later 0 = failure := by
  have hindices : ∀ indices : List Value, indices.map (Value.later 0) = indices := by
    intro indices
    simp [funext Value.later_zero]
  cases failure <;> simp [Failure.later, Value.later_zero, hindices]

namespace Validation

/-- Some input value of an action step mentions an output of a step of the name. -/
def Mentions (job : Job) (name : String) : Prop :=
  ∃ step ∈ job.steps, ∃ info, step.action = some info ∧ ∃ e ∈ info.inputValues.entries,
    ∃ output, OccursIn (.stepOutput name output) e.2

/-- The second job has the steps of the first, and around them steps that no action has made, that
can be looked up and that are not mentioned. -/
structure Surrounds (front back : List Step) (job job' : Job) : Prop where
  steps : job'.steps = front ++ job.steps ++ back
  plain : ∀ step ∈ front ++ back, step.action = none
  named : ∀ step ∈ front ++ back, ∃ name, step.name = .text name ∧ ¬ Mentions job name

/-! ## Walks over the action steps

All checks of a job walk over its action steps and use the position of a step only to report it.
What such a walk does with steps in front and behind is shown once. -/

section Walk

variable {α : Type}

/-- Visits the action steps from the last to the first, with their positions from `i` on. -/
def walk (visit : Nat → Step → ActionInfo → α → α) (last : α) : Nat → List Step → α
  | _, [] => last
  | i, step :: rest =>
    match step.action with
    | none => walk visit last (i + 1) rest
    | some info => visit i step info (walk visit last (i + 1) rest)

variable {visit : Nat → Step → ActionInfo → α → α} {last : α}

/-- Steps in front that no action has made are passed over, but they count for the positions of
those behind. Induction on the steps in front. -/
theorem walk_plain_append {front steps : List Step} {i : Nat}
    (hfront : ∀ step ∈ front, step.action = none) :
    walk visit last i (front ++ steps) = walk visit last (i + front.length) steps := by
  induction front generalizing i with
  | nil => rfl
  | cons step rest ih =>
    obtain ⟨hstep, hrest⟩ := List.forall_mem_cons.mp hfront
    have hposition : i + 1 + rest.length = i + (step :: rest).length := by
      rw [List.length_cons]
      omega
    rw [List.cons_append, walk, hstep, ← hposition]
    exact ih hrest

/-- Steps behind that no action has made are passed over without a trace. -/
theorem walk_append_plain {steps back : List Step} {i : Nat}
    (hback : ∀ step ∈ back, step.action = none) :
    walk visit last i (steps ++ back) = walk visit last i steps := by
  induction steps generalizing i with
  | nil =>
    have hskip : walk visit last i (back ++ []) = walk visit last (i + back.length) [] :=
      walk_plain_append hback
    rw [List.append_nil] at hskip
    rw [List.nil_append, hskip]
    rfl
  | cons step rest ih =>
    rw [List.cons_append, walk, walk]
    cases step.action with
    | none => exact ih
    | some info => exact congrArg (visit i step info) ih

/-- A visit that commutes with the move of the positions makes the walk commute with it. -/
theorem walk_later {move : α → α} {n : Nat} (hlast : move last = last)
    (hvisit : ∀ i step info a, visit (i + n) step info (move a) = move (visit i step info a))
    (i : Nat) (steps : List Step) :
    walk visit last (i + n) steps = move (walk visit last i steps) := by
  induction steps generalizing i with
  | nil => exact hlast.symm
  | cons step rest ih =>
    have hrest : walk visit last (i + n + 1) rest = move (walk visit last (i + 1) rest) := by
      rw [← ih (i + 1), Nat.add_right_comm]
    rw [walk, walk, hrest]
    cases step.action with
    | none => rfl
    | some info => exact hvisit i step info _

/-- Steps that no action has made move the positions of those between them, and do nothing else. -/
theorem walk_surround {move : α → α} {front back : List Step}
    (hplain : ∀ step ∈ front ++ back, step.action = none) (hlast : move last = last)
    (hvisit : ∀ i step info a,
      visit (i + front.length) step info (move a) = move (visit i step info a))
    (steps : List Step) :
    walk visit last 0 (front ++ steps ++ back) = move (walk visit last 0 steps) := by
  obtain ⟨hfront, hback⟩ := List.forall_mem_append.mp hplain
  rw [walk_append_plain hback, walk_plain_append hfront, walk_later hlast hvisit]

end Walk

variable {front back : List Step} {job job' : Job}

/-! ## The type check -/

theorem typeIssuesFrom_eq_walk (name : Label) (i : Nat) (steps : List Step) :
    typeIssuesFrom name i steps =
      walk (fun i _ info issues => do
        let here ← inputIssues name i info info.inputs.entries
        .ok (here ++ (← issues))) (.ok []) i steps := by
  induction steps generalizing i with
  | nil => rfl
  | cons step rest ih =>
    rw [typeIssuesFrom, walk, ← ih (i + 1)]
    cases step.action with
    | none =>
      cases typeIssuesFrom name (i + 1) rest with
      | error e => rfl
      | ok issues => rfl
    | some info => rfl

/-- The position of a step goes into an issue and decides nothing, so moving the step moves the
issue. -/
theorem inputIssue_later (n : Nat) (name : Label) (i : Nat) (info : ActionInfo) (input : String)
    (t : InputType) :
    inputIssue name (i + n) info input t =
      (inputIssue name i info input t).map (Option.map (Failure.later n)) := by
  unfold inputIssue
  split
  · cases t.defaultOf with
    | error e => rfl
    | ok found => cases found <;> rfl
  · cases t.accepts ((info.inputValues.get? input).getD .null) with
    | error e => rfl
    | ok passes => cases passes <;> rfl

theorem inputIssues_later (n : Nat) (name : Label) (i : Nat) (info : ActionInfo)
    (inputs : List (String × InputType)) :
    inputIssues name (i + n) info inputs =
      (inputIssues name i info inputs).map (List.map (Failure.later n)) := by
  induction inputs with
  | nil => rfl
  | cons e rest ih =>
    obtain ⟨input, t⟩ := e
    rw [inputIssues, inputIssues, ih, inputIssue_later]
    cases inputIssue name i info input t with
    | error e => rfl
    | ok issue =>
      cases inputIssues name i info rest with
      | error e => rfl
      | ok issues => cases issue <;> rfl

/-- **The type issues of a job with plain steps around its own** are its issues, moved by the number
of steps in front. -/
theorem typeIssues_surrounds (h : Surrounds front back job job') (name : Label) :
    typeIssues name job' =
      (typeIssues name job).map (List.map (Failure.later front.length)) := by
  unfold typeIssues
  rw [h.steps, typeIssuesFrom_eq_walk, typeIssuesFrom_eq_walk]
  refine walk_surround h.plain rfl ?_ job.steps
  intro i _ info issues
  rw [inputIssues_later]
  cases inputIssues name i info info.inputs.entries with
  | error e => rfl
  | ok here =>
    cases issues with
    | error e => rfl
    | ok issues =>
      show Except.ok _ = Except.ok _
      rw [List.map_append]

/-! ## The reference check

Besides the positions this check knows the names of all steps. The added steps bring in names of
their own, which no reference may mention. -/

/-- The names of the action steps, for the check of shared stems, as a walk. -/
theorem actionNames_eq_walk (i : Nat) (steps : List Step) :
    actionNames i steps =
      walk (fun i step _ named => do
        let name ← step.name.variablePart
        .ok ((sanitize name, i) :: (← named))) (.ok []) i steps := by
  induction steps generalizing i with
  | nil => rfl
  | cons step rest ih =>
    rw [actionNames, walk]
    cases step.action with
    | none => exact ih (i + 1)
    | some info =>
      simp only [ih (i + 1)]

theorem positionsOf_later (n : Nat) (stem : String) (named : List (String × Nat)) :
    positionsOf stem (named.map fun e => (e.1, e.2 + n)) =
      (positionsOf stem named).map (· + n) := by
  unfold positionsOf
  rw [List.filter_map, List.map_map, List.map_map]
  rfl

/-- The stems that are shared stay shared when all positions are moved, and are reported at the
moved positions. -/
theorem sharedNames_later (n : Nat) (job : Label) (named : List (String × Nat)) :
    sharedNames job (named.map fun e => (e.1, e.2 + n)) =
      (sharedNames job named).map (Failure.later n) := by
  have hstems : (named.map fun e => (e.1, e.2 + n)).map Prod.fst = named.map Prod.fst := by
    rw [List.map_map]
    rfl
  unfold sharedNames
  rw [hstems, List.map_filterMap]
  congr 1
  funext stem
  rw [positionsOf_later]
  by_cases hmany : 1 < (positionsOf stem named).length
  · simp [hmany, Failure.later, Value.later]
  · simp [hmany]

/-- **The name collisions of a job with plain steps around its own** are moved alike; the names of
the plain steps take no part. -/
theorem nameCollisions_surrounds (h : Surrounds front back job job') (name : Label) :
    nameCollisions name job'.steps =
      (nameCollisions name job.steps).map (List.map (Failure.later front.length)) := by
  have hnames : actionNames 0 job'.steps =
      (actionNames 0 job.steps).map (List.map fun e => (e.1, e.2 + front.length)) := by
    rw [h.steps, actionNames_eq_walk, actionNames_eq_walk]
    refine walk_surround h.plain rfl ?_ job.steps
    intro i step _ named
    cases step.name.variablePart with
    | error e => rfl
    | ok name => cases named <;> rfl
  unfold nameCollisions
  rw [hnames]
  cases actionNames 0 job.steps with
  | error e => rfl
  | ok named => exact congrArg Except.ok (sharedNames_later front.length name named)

theorem refIssuesFrom_eq_walk (name : Label) (names : List String) (i : Nat) (steps : List Step) :
    refIssuesFrom name names i steps =
      walk (fun i _ info issues => stepRefIssues name names i info ++ issues) [] i steps := by
  induction steps generalizing i with
  | nil => rfl
  | cons step rest ih =>
    rw [refIssuesFrom, walk, ih (i + 1)]
    cases step.action with
    | none => exact List.nil_append _
    | some info => rfl

theorem stepRefIssues_later (n : Nat) (name : Label) (names : List String) (i : Nat)
    (info : ActionInfo) :
    stepRefIssues name names (i + n) info =
      (stepRefIssues name names i info).map (Failure.later n) := by
  unfold stepRefIssues
  rw [List.map_flatMap]
  simp only [List.map_map]
  rfl

/-- Names that are not mentioned do not count. -/
theorem refIssuesFrom_congr {names names' : List String} {steps : List Step}
    (h : ∀ step ∈ steps, ∀ info, step.action = some info → ∀ e ∈ info.inputValues.entries,
      ∀ target ∈ referredSteps e.2, target ∈ names' ↔ target ∈ names) (name : Label) (i : Nat) :
    refIssuesFrom name names' i steps = refIssuesFrom name names i steps := by
  induction steps generalizing i with
  | nil => rfl
  | cons step rest ih =>
    obtain ⟨hstep, hrest⟩ := List.forall_mem_cons.mp h
    rw [refIssuesFrom, refIssuesFrom, ih hrest]
    cases haction : step.action with
    | none => rfl
    | some info =>
      have hhere : stepRefIssues name names' i info = stepRefIssues name names i info := by
        refine List.flatMap_congr fun e he => ?_
        congr 1
        refine List.filter_congr fun target htarget => ?_
        simp [hstep info haction e he target htarget]
      simp only [hhere]

/-- The steps that a value refers to are those of the outputs that occur in it. -/
theorem mem_referredSteps_iff {name : String} {v : Value} :
    name ∈ referredSteps v ↔ ∃ output, OccursIn (.stepOutput name output) v := by
  simp [referredSteps_eq_map, mem_stepOutputs_iff]

/-- A step that is mentioned is one of the new steps exactly if it was one of the old: the steps
around them have names that are not mentioned. -/
theorem mem_stepNames_surrounds (h : Surrounds front back job job') {target : String}
    (hmentions : Mentions job target) :
    target ∈ stepNames job'.steps ↔ target ∈ stepNames job.steps := by
  have hother : ∀ step ∈ front ++ back, step.name.text? ≠ some target := by
    intro step hstep htarget
    obtain ⟨name, hname, hunmentioned⟩ := h.named step hstep
    rw [hname] at htarget
    cases htarget
    exact hunmentioned hmentions
  unfold stepNames
  simp only [h.steps, List.mem_filterMap, List.mem_append]
  constructor
  · rintro ⟨step, (hfront | hstep) | hback, htarget⟩
    · exact absurd htarget (hother step (List.mem_append_left _ hfront))
    · exact ⟨step, hstep, htarget⟩
    · exact absurd htarget (hother step (List.mem_append_right _ hback))
  · rintro ⟨step, hstep, htarget⟩
    exact ⟨step, .inl (.inr hstep), htarget⟩

/-- So the references that are unknown are the same, at moved positions. -/
theorem refIssuesFrom_surrounds (h : Surrounds front back job job') (name : Label) :
    refIssuesFrom name (stepNames job'.steps) 0 job'.steps =
      (refIssuesFrom name (stepNames job.steps) 0 job.steps).map
        (Failure.later front.length) := by
  have hnames : refIssuesFrom name (stepNames job'.steps) 0 job.steps =
      refIssuesFrom name (stepNames job.steps) 0 job.steps := by
    refine refIssuesFrom_congr ?_ name 0
    intro step hstep info haction e he target htarget
    exact mem_stepNames_surrounds h
      ⟨step, hstep, info, haction, e, he, mem_referredSteps_iff.mp htarget⟩
  -- the names are exchanged first, so that both sides are walks with one visit
  rw [← hnames]
  generalize stepNames job'.steps = names
  rw [h.steps, refIssuesFrom_eq_walk, refIssuesFrom_eq_walk]
  refine walk_surround h.plain rfl ?_ job.steps
  intro i _ info issues
  rw [stepRefIssues_later, List.map_append]

/-- The names of the steps around can be looked up, so the check of all names fails at the same step
as before or not at all. -/
theorem forM_checkFixed_surrounds (h : Surrounds front back job job') :
    job'.steps.forM (fun step => step.name.checkFixed) =
      job.steps.forM fun step => step.name.checkFixed := by
  have hfixed : ∀ step ∈ front ++ back, step.name.checkFixed = .ok () := by
    intro step hstep
    obtain ⟨name, hname, -⟩ := h.named step hstep
    rw [hname]
    rfl
  obtain ⟨hfront, hback⟩ := List.forall_mem_append.mp hfixed
  rw [List.forM_eq_forM, h.steps, List.forM_append, List.forM_append, ← List.forM_eq_forM,
    Success.forM_eq_ok.mpr hfront, Success.forM_eq_ok.mpr hback]
  cases job.steps.forM fun step => step.name.checkFixed with
  | error e => rfl
  | ok _ => rfl

/-- **The reference issues of a job with plain steps around its own** are its issues moved, or it
fails in the same way. -/
theorem refIssues_surrounds (h : Surrounds front back job job') (name : Label) :
    refIssues name job' = (refIssues name job).map (List.map (Failure.later front.length)) := by
  have hunknown := refIssuesFrom_surrounds h name
  unfold stepNames at hunknown
  unfold refIssues
  simp only [forIn_checkFixed_eq]
  rw [nameCollisions_surrounds h, forM_checkFixed_surrounds h, hunknown]
  cases nameCollisions name job.steps with
  | error e => rfl
  | ok collisions =>
    cases job.steps.forM fun step => step.name.checkFixed with
    | error e => rfl
    | ok _ =>
      show Except.ok _ = Except.ok _
      rw [List.map_append]

/-! ## The jobs of a workflow -/

/-- The second workflow has the jobs of the first with other steps around theirs, of which `moved`
says how many are in front. -/
def Relocates (moved : Label → Nat) (w w' : Workflow) : Prop :=
  ∃ f : String → Job → Job, w'.jobs = w.jobs.map f ∧ ∀ e ∈ w.jobs.entries,
    ∃ front back, Surrounds front back e.2 (f e.1 e.2) ∧ front.length = moved (.text e.1)

/-- A verdict on a workflow with relocated steps. -/
def relocate (moved : Label → Nat) (w : Workflow) : Verdict → Verdict
  | .accepted _ => .accepted w
  | .rejected title name issues =>
    .rejected title name (issues.map (Failure.later (moved name)))

/-- The same job is the first with an issue. Induction on the jobs. -/
theorem firstRejection_relocates {issuesOf : Label → Job → Except Failure (List Failure)}
    {moved : Label → Nat} {f : String → Job → Job} {jobs : List (String × Job)}
    (h : ∀ e ∈ jobs, issuesOf (.text e.1) (f e.1 e.2) =
      (issuesOf (.text e.1) e.2).map (List.map (Failure.later (moved (.text e.1))))) :
    firstRejection issuesOf (jobs.map fun e => (e.1, f e.1 e.2)) =
      (firstRejection issuesOf jobs).map
        (Option.map fun r => (r.1, r.2.map (Failure.later (moved r.1)))) := by
  induction jobs with
  | nil => rfl
  | cons e rest ih =>
    obtain ⟨key, job⟩ := e
    obtain ⟨hjob, hrest⟩ := List.forall_mem_cons.mp h
    rw [List.map_cons, firstRejection, firstRejection, hjob, ih hrest]
    cases issuesOf (.text key) job with
    | error e => rfl
    | ok issues =>
      -- a move does not empty the issues, so the pass stops at the same jobs
      cases issues with
      | nil => rfl
      | cons issue more => rfl

/-- A check whose issues of a job are moved gives the same verdict, or fails in the same way. -/
theorem check_relocates {issuesOf : Label → Job → Except Failure (List Failure)}
    (hissues : ∀ (front back : List Step) (job job' : Job), Surrounds front back job job' →
      ∀ name, issuesOf name job' =
        (issuesOf name job).map (List.map (Failure.later front.length)))
    {moved : Label → Nat} {w w' : Workflow} (h : Relocates moved w w') (title : String) :
    check title issuesOf w' = (check title issuesOf w).map (relocate moved w') := by
  obtain ⟨f, hjobs, hsurrounds⟩ := h
  have hfirst : firstRejection issuesOf w'.jobs.entries =
      (firstRejection issuesOf w.jobs.entries).map
        (Option.map fun r => (r.1, r.2.map (Failure.later (moved r.1)))) := by
    rw [hjobs]
    refine firstRejection_relocates fun e he => ?_
    obtain ⟨front, back, hjob, hlength⟩ := hsurrounds e he
    rw [hissues front back _ _ hjob, hlength]
  unfold check
  rw [hfirst]
  cases firstRejection issuesOf w.jobs.entries with
  | error e => rfl
  | ok rejected =>
    cases rejected with
    | none => rfl
    | some r => rfl

/-- **The outcome of validation for a workflow whose jobs were surrounded**: accepted as the new
workflow, rejected for the same job at moved positions, or broken off alike. -/
theorem outcome_relocates {moved : Label → Nat} {w w' : Workflow} (h : Relocates moved w w') :
    outcome w' = (outcome w).map (relocate moved w') := by
  have htypes : checkTypes w' = (checkTypes w).map (relocate moved w') :=
    check_relocates (fun _ _ _ _ => typeIssues_surrounds) h _
  have hrefs : checkStepRefs w' = (checkStepRefs w).map (relocate moved w') :=
    check_relocates (fun _ _ _ _ => refIssues_surrounds) h _
  unfold outcome
  rw [htypes]
  cases hverdict : checkTypes w with
  | error e => rfl
  | ok verdict =>
    cases verdict with
    | accepted v =>
      -- what is accepted is the workflow itself, so the second check looks at it again
      obtain rfl : v = w := accepted_eq hverdict
      exact hrefs
    | rejected title name issues => rfl

/-- In particular one of the two is accepted exactly if the other is. -/
theorem validate_relocates {moved : Label → Nat} {w w' : Workflow} (h : Relocates moved w w') :
    validate w = .ok w ↔ validate w' = .ok w' := by
  rw [validate_eq_self_iff, validate_eq_self_iff, outcome_relocates h]
  cases outcome w with
  | error e => simp [Except.map]
  | ok verdict =>
    cases verdict with
    | accepted v => simp [Except.map, relocate]
    | rejected title name issues => simp [Except.map, relocate]

end Validation

end ShellFlow

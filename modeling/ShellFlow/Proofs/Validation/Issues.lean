import ShellFlow.Proofs.Job.Collisions
import ShellFlow.Proofs.Occurrence
import ShellFlow.Validation

/-!
# Issues of a job

Which places of a job the checks look at, which of them have an issue, and which issues are reported.
The checks walk over the steps with a counter and collect issues on the way; here the places of a job
are one list, in the order of the steps, and its issues are those of the places.

* **`TypesSound`**, **`RefsSound`** — what the checks ask of a job, with no word about how they look.
* **`typeIssues_eq`**, **`refIssues_eq_ok_iff`** — the checks report the issues of the places.
* **`typeViolations_eq_nil_iff`**, **`refViolations_eq_nil_iff`** — no place has an issue exactly if
  the job is sound.
-/

namespace ShellFlow.Validation

/-! ## What is asked of a job -/

/-- Every declared input has a value or a default, and every value that is no reference has the
declared type. -/
structure TypesSound (job : Job) : Prop where
  present : ∀ step ∈ job.steps, ∀ info, step.action = some info → ∀ e ∈ info.inputs.entries,
    ((info.inputValues.get? e.1).getD .null).isNull = true → e.2.hasDefault = true
  typed : ∀ step ∈ job.steps, ∀ info, step.action = some info → ∀ e ∈ info.inputs.entries,
    ∀ v, (info.inputValues.get? e.1).getD .null = v → v.isNull = false → v.isReference = false →
      e.2.check v = .ok true

def HasStep (job : Job) (name : String) : Prop := ∃ step ∈ job.steps, step.name = .text name

/-- Every output of a step that occurs in an input value is one of a step of the job, and no two
action steps have names that sanitize alike. -/
structure RefsSound (job : Job) : Prop where
  known : ∀ step ∈ job.steps, ∀ info, step.action = some info → ∀ e ∈ info.inputValues.entries,
    ∀ target output, OccursIn (.stepOutput target output) e.2 → HasStep job target
  distinct : DistinctStems job.steps

/-- The checks of a job run to their end: names can be looked up and those of action steps are texts,
declared types are types, and their checks have a result for every value. -/
structure Checkable (job : Job) : Prop where
  fixed : ∀ step ∈ job.steps, step.name.checkFixed = .ok ()
  texts : NamedByTexts job.steps
  total : ∀ step ∈ job.steps, ∀ info, step.action = some info → ∀ e ∈ info.inputs.entries,
    e.2.stray = none ∧ ∀ v, ∃ passes, e.2.check v = .ok passes

/-! ## Places

The checks are nested loops over steps, inputs and references. Here they are flattened into lists of
places, so that an issue is told by the place it is about. -/

/-- The action steps among some steps, with their positions from `i` on. -/
def actionSteps (i : Nat) (steps : List Step) : List (Nat × ActionInfo) :=
  (steps.zipIdx i).filterMap fun e => e.1.action.map fun info => (e.2, info)

theorem actionSteps_cons (i : Nat) (step : Step) (rest : List Step) :
    actionSteps i (step :: rest) =
      (step.action.map fun info => (i, info)).toList ++ actionSteps (i + 1) rest := by
  unfold actionSteps
  rw [List.zipIdx_cons, List.filterMap_cons]
  cases step.action with
  | none => rfl
  | some info => rfl

/-- Some position has the action exactly if one of the steps was made from it. -/
theorem exists_mem_actionSteps_iff {steps : List Step} {info : ActionInfo} :
    (∃ i, (i, info) ∈ actionSteps 0 steps) ↔ ∃ step ∈ steps, step.action = some info := by
  simp only [actionSteps, List.mem_filterMap, Option.map_eq_some_iff, Prod.mk.injEq, Prod.exists,
    List.mem_zipIdx_iff_getElem?]
  constructor
  · rintro ⟨i, step, _, hstep, _, haction, rfl, rfl⟩
    exact ⟨step, List.mem_of_getElem? hstep, haction⟩
  · rintro ⟨step, hstep, haction⟩
    obtain ⟨i, hi⟩ := List.getElem?_of_mem hstep
    exact ⟨i, step, i, hi, info, haction, rfl, rfl⟩

/-- A declared input of an action step. -/
structure InputSite where
  position : Nat
  info : ActionInfo
  input : String
  type : InputType

/-- An output of a step that is mentioned in an input value of an action step. -/
structure RefSite where
  position : Nat
  info : ActionInfo
  input : String
  target : String
  output : String

/-- The declared inputs of the action steps, step by step, in the order of their declaration. -/
def inputSites (i : Nat) (steps : List Step) : List InputSite :=
  (actionSteps i steps).flatMap fun (position, info) =>
    info.inputs.entries.map fun e => ⟨position, info, e.1, e.2⟩

/-- The mentioned outputs, step by step and input by input, from left to right in each value. -/
def refSites (i : Nat) (steps : List Step) : List RefSite :=
  (actionSteps i steps).flatMap fun (position, info) =>
    info.inputValues.entries.flatMap fun e =>
      (stepOutputs e.2).map fun r => ⟨position, info, e.1, r.1, r.2⟩

/-! ## Issues of places -/

namespace InputSite

def value (site : InputSite) : Value := (site.info.inputValues.get? site.input).getD .null

/-- There is neither a value nor a default. -/
def IsMissing (site : InputSite) : Prop :=
  site.value.isNull = true ∧ site.type.hasDefault = false

/-- There is a value that is no reference, and it does not have the type. -/
def IsMismatched (site : InputSite) : Prop :=
  site.value.isNull = false ∧ site.value.isReference = false
    ∧ site.type.check site.value ≠ .ok true

def missing (site : InputSite) : Failure :=
  .missingRequiredInput site.info.actionName (.text site.input) (.text "action")
    (.int site.position)

def mismatch (job : Label) (site : InputSite) : Failure :=
  .typeMismatch job (.int site.position) site.info.actionName (.text site.input) site.type.name

def issue? (job : Label) (site : InputSite) : Option Failure :=
  if site.value.isNull then if site.type.hasDefault then none else some site.missing
  else if site.value.isReference then none
  else
    match site.type.check site.value with
    | .ok true => none
    | _ => some (site.mismatch job)

/-- The issue of an input: that its value is missing, or that it is none of the type. Never both, as
a missing value is not checked against the type. -/
theorem issue?_eq_some_iff {job : Label} {site : InputSite} {issue : Failure} :
    site.issue? job = some issue ↔
      (site.IsMissing ∧ issue = site.missing) ∨ (site.IsMismatched ∧ issue = site.mismatch job) := by
  unfold issue? IsMissing IsMismatched
  cases hnull : site.value.isNull with
  | true => cases hdefault : site.type.hasDefault <;> simp [@eq_comm _ issue]
  | false =>
    cases hreference : site.value.isReference with
    | true => simp
    | false =>
      by_cases hcheck : site.type.check site.value = .ok true
      · simp [hcheck]
      · simp [hcheck, @eq_comm _ issue]

theorem issue?_eq_none_iff {job : Label} {site : InputSite} :
    site.issue? job = none ↔ ¬ site.IsMissing ∧ ¬ site.IsMismatched := by
  rw [Option.eq_none_iff_forall_ne_some]
  simp only [Ne, issue?_eq_some_iff, not_or, not_and]
  constructor
  · intro h
    exact ⟨fun hmissing => (h _).1 hmissing rfl, fun hmismatched => (h _).2 hmismatched rfl⟩
  · rintro ⟨hmissing, hmismatched⟩ issue
    exact ⟨fun h => absurd h hmissing, fun h => absurd h hmismatched⟩

end InputSite

def typeViolations (name : Label) (job : Job) : List Failure :=
  (inputSites 0 job.steps).filterMap (InputSite.issue? name)

def RefSite.issue? (job : Label) (names : List String) (site : RefSite) : Option Failure :=
  if site.target ∈ names then none
  else
    some (.unknownStepReference job site.info.name (.text site.target) (.text site.input)
      (.int site.position))

def stepNames (steps : List Step) : List String := steps.filterMap fun step => step.name.text?

def unknownRefs (name : Label) (job : Job) : List Failure :=
  (refSites 0 job.steps).filterMap (RefSite.issue? name (stepNames job.steps))

/-- The reference issues of a job: its collisions, then the references to steps that it does not
have. -/
def refViolations (name : Label) (job : Job) : List Failure :=
  collisions name job.steps ++ unknownRefs name job

/-- The names that references are looked up in are those of all steps of the job, also of steps that
no action has made and of later ones. -/
theorem mem_stepNames_iff {job : Job} {name : String} :
    name ∈ stepNames job.steps ↔ HasStep job name := by
  simp only [stepNames, List.mem_filterMap, Value.text?_eq_some_iff, HasStep]

/-! ## The type check -/

/-- An absent value is an issue only without a default; what the default is does not matter here. -/
theorem inputIssue_of_isNull {job : Label} {i : Nat} {info : ActionInfo} {input : String}
    {t : InputType} (hstray : t.stray = none)
    (hnull : ((info.inputValues.get? input).getD .null).isNull = true) :
    inputIssue job i info input t =
      .ok (if t.hasDefault then none
        else
          some (.missingRequiredInput info.actionName (.text input) (.text "action") (.int i))) := by
  unfold inputIssue
  generalize (info.inputValues.get? input).getD .null = value at hnull
  cases value with
  | null =>
    rw [InputType.defaultOf_of_stray_none hstray]
    cases t.hasDefault <;> rfl
  | bool _ | int _ | float _ | text _ | list _ | tuple _ | mapping _ | path _ | bytes _
  | object _ _ | struct _ _ _ | noDefault | reference _ => cases hnull

/-- A value that is there is an issue if its type does not accept it. -/
theorem inputIssue_of_value {job : Label} {i : Nat} {info : ActionInfo} {input : String}
    {t : InputType} {passes : Bool}
    (hnull : ((info.inputValues.get? input).getD .null).isNull = false)
    (haccepts : t.accepts ((info.inputValues.get? input).getD .null) = .ok passes) :
    inputIssue job i info input t =
      .ok (if passes then none
        else some (.typeMismatch job (.int i) info.actionName (.text input) t.name)) := by
  unfold inputIssue
  generalize (info.inputValues.get? input).getD .null = value at hnull haccepts
  cases value with
  | null => cases hnull
  | bool _ | int _ | float _ | text _ | list _ | tuple _ | mapping _ | path _ | bytes _
  | object _ _ | struct _ _ _ | noDefault | reference _ =>
    simp only [haccepts]
    cases passes <;> rfl

/-- The check of one input, of which the type is one and has a result for every value. -/
theorem inputIssue_eq {job : Label} {i : Nat} {info : ActionInfo} {input : String} {t : InputType}
    (hstray : t.stray = none) (htotal : ∀ v, ∃ passes, t.check v = .ok passes) :
    inputIssue job i info input t = .ok (InputSite.issue? job ⟨i, info, input, t⟩) := by
  let site : InputSite := ⟨i, info, input, t⟩
  obtain ⟨passes, hpasses⟩ := htotal site.value
  cases hnull : site.value.isNull with
  | true =>
    rw [inputIssue_of_isNull hstray hnull]
    simp [InputSite.issue?, InputSite.missing, hnull, site]
  | false =>
    -- a reference passes without a look at its type
    cases hreference : site.value.isReference with
    | true =>
      have haccepts : t.accepts site.value = .ok true := by
        simp [InputType.accepts, hreference]
      rw [inputIssue_of_value hnull haccepts]
      simp [InputSite.issue?, hnull, hreference, site]
    | false =>
      have haccepts : t.accepts site.value = .ok passes := by
        simp [InputType.accepts, hreference, hpasses]
      rw [inputIssue_of_value hnull haccepts]
      cases passes <;> simp [InputSite.issue?, InputSite.mismatch, hnull, hreference, hpasses, site]

/-- **The type check of an action, without the ways in which it can fail**: if its types are types
and their checks have results, the issues are those of its inputs, in the order of declaration. -/
theorem inputIssues_eq {job : Label} {i : Nat} {info : ActionInfo}
    {inputs : List (String × InputType)}
    (htotal : ∀ e ∈ inputs, e.2.stray = none ∧ ∀ v, ∃ passes, e.2.check v = .ok passes) :
    inputIssues job i info inputs =
      .ok ((inputs.map fun e => ⟨i, info, e.1, e.2⟩).filterMap (InputSite.issue? job)) := by
  induction inputs with
  | nil => rfl
  | cons e rest ih =>
    obtain ⟨input, t⟩ := e
    obtain ⟨⟨hstray, hcheck⟩, hrest⟩ := List.forall_mem_cons.mp htotal
    rw [inputIssues, inputIssue_eq hstray hcheck, ih hrest, List.map_cons, List.filterMap_cons]
    cases InputSite.issue? job ⟨i, info, input, t⟩ <;> rfl

theorem inputSites_cons (i : Nat) (step : Step) (rest : List Step) :
    inputSites i (step :: rest) =
      (match step.action with
        | none => []
        | some info => info.inputs.entries.map fun e => ⟨i, info, e.1, e.2⟩)
      ++ inputSites (i + 1) rest := by
  unfold inputSites
  rw [actionSteps_cons, List.flatMap_append]
  cases step.action with
  | none => rfl
  | some info => simp

/-- The type check of a row of steps, by induction on the steps with the position going up. -/
theorem typeIssuesFrom_eq {job : Label} {i : Nat} {steps : List Step}
    (htotal : ∀ step ∈ steps, ∀ info, step.action = some info → ∀ e ∈ info.inputs.entries,
      e.2.stray = none ∧ ∀ v, ∃ passes, e.2.check v = .ok passes) :
    typeIssuesFrom job i steps = .ok ((inputSites i steps).filterMap (InputSite.issue? job)) := by
  induction steps generalizing i with
  | nil => rfl
  | cons step rest ih =>
    obtain ⟨hstep, hrest⟩ := List.forall_mem_cons.mp htotal
    rw [typeIssuesFrom, ih hrest, inputSites_cons, List.filterMap_append]
    cases haction : step.action with
    | none => rfl
    | some info =>
      simp only [inputIssues_eq (hstep info haction)]
      rfl

/-- The type check reports the issues of the declared inputs. -/
theorem typeIssues_eq {name : Label} {job : Job} (h : Checkable job) :
    typeIssues name job = .ok (typeViolations name job) :=
  typeIssuesFrom_eq h.total

/-- An input is looked at exactly if an action of the steps declares it. -/
theorem mem_inputSites_iff {steps : List Step} {info : ActionInfo} {input : String}
    {t : InputType} :
    (∃ i, (⟨i, info, input, t⟩ : InputSite) ∈ inputSites 0 steps) ↔
      (input, t) ∈ info.inputs.entries ∧ ∃ step ∈ steps, step.action = some info := by
  rw [← exists_mem_actionSteps_iff]
  simp only [inputSites, List.mem_flatMap, List.mem_map, InputSite.mk.injEq, Prod.exists]
  constructor
  · rintro ⟨i, j, info', hinfo, input', t', hinput, rfl, rfl, rfl, rfl⟩
    exact ⟨hinput, j, hinfo⟩
  · rintro ⟨hinput, i, hinfo⟩
    exact ⟨i, i, info, hinfo, input, t, hinput, rfl, rfl, rfl, rfl⟩

/-- No declared input has an issue exactly if the input values are sound. -/
theorem typeViolations_eq_nil_iff {name : Label} {job : Job} :
    typeViolations name job = [] ↔ TypesSound job := by
  unfold typeViolations
  rw [List.filterMap_eq_nil_iff]
  constructor
  · intro h
    -- every input of an action step is a place, so nothing that is asked for is left out
    have hsite : ∀ step ∈ job.steps, ∀ info, step.action = some info →
        ∀ e ∈ info.inputs.entries, ∃ i, ¬ (InputSite.mk i info e.1 e.2).IsMissing
          ∧ ¬ (InputSite.mk i info e.1 e.2).IsMismatched := by
      intro step hstep info haction e he
      obtain ⟨i, hi⟩ := mem_inputSites_iff.mpr ⟨he, step, hstep, haction⟩
      exact ⟨i, InputSite.issue?_eq_none_iff.mp (h _ hi)⟩
    constructor
    · intro step hstep info haction e he hnull
      obtain ⟨i, hmissing, -⟩ := hsite step hstep info haction e he
      cases hdefault : e.2.hasDefault with
      | true => rfl
      | false => exact absurd ⟨hnull, hdefault⟩ hmissing
    · rintro step hstep info haction e he v rfl hnull hreference
      obtain ⟨i, -, hmismatched⟩ := hsite step hstep info haction e he
      by_contra hcheck
      exact hmismatched ⟨hnull, hreference, hcheck⟩
  · rintro h ⟨i, info, input, t⟩ hsite
    obtain ⟨he, step, hstep, haction⟩ := mem_inputSites_iff.mp ⟨i, hsite⟩
    refine InputSite.issue?_eq_none_iff.mpr ⟨?_, ?_⟩
    · rintro ⟨hnull, hdefault⟩
      have hpresent : t.hasDefault = true := h.present step hstep info haction (input, t) he hnull
      rw [hpresent] at hdefault
      cases hdefault
    · rintro ⟨hnull, hreference, hcheck⟩
      exact hcheck (h.typed step hstep info haction (input, t) he _ rfl hnull hreference)

/-! ## The reference check -/

/-- The reference check of one action step. Its inputs are looked at in the order in which they hold
values, and the references in each value from left to right. -/
theorem stepRefIssues_eq {job : Label} {names : List String} {i : Nat} {info : ActionInfo} :
    stepRefIssues job names i info =
      (info.inputValues.entries.flatMap fun e =>
        (stepOutputs e.2).map fun r => (⟨i, info, e.1, r.1, r.2⟩ : RefSite)).filterMap
          (RefSite.issue? job names) := by
  unfold stepRefIssues
  rw [List.filterMap_flatMap]
  refine List.flatMap_congr fun e _ => ?_
  rw [referredSteps_eq_map]
  induction stepOutputs e.2 with
  | nil => rfl
  | cons r rest ih =>
    simp only [List.map_cons, List.filter_cons, List.filterMap_cons, ← ih]
    by_cases hknown : r.1 ∈ names
    · simp [RefSite.issue?, hknown]
    · simp [RefSite.issue?, hknown]

theorem refSites_cons (i : Nat) (step : Step) (rest : List Step) :
    refSites i (step :: rest) =
      (match step.action with
        | none => []
        | some info =>
          info.inputValues.entries.flatMap fun e =>
            (stepOutputs e.2).map fun r => ⟨i, info, e.1, r.1, r.2⟩)
      ++ refSites (i + 1) rest := by
  unfold refSites
  rw [actionSteps_cons, List.flatMap_append]
  cases step.action with
  | none => rfl
  | some info => simp

/-- The reference check of a row of steps. Unlike the type check it cannot fail, once the names are
known. -/
theorem refIssuesFrom_eq {job : Label} {names : List String} {i : Nat} {steps : List Step} :
    refIssuesFrom job names i steps = (refSites i steps).filterMap (RefSite.issue? job names) := by
  induction steps generalizing i with
  | nil => rfl
  | cons step rest ih =>
    rw [refIssuesFrom, ih, refSites_cons, List.filterMap_append]
    cases step.action with
    | none => rfl
    | some info => simp only [stepRefIssues_eq]

/-- The loop over the names of the steps, which only looks whether each can be looked up, as a row
of checks. -/
theorem forIn_checkFixed_eq (steps : List Step) :
    (forIn steps PUnit.unit fun step _ => do
      step.name.checkFixed
      pure (ForInStep.yield PUnit.unit) : Except Failure PUnit) =
      steps.forM fun step => step.name.checkFixed := by
  induction steps with
  | nil => rfl
  | cons step rest ih =>
    rw [List.forIn_cons, List.forM]
    cases step.name.checkFixed with
    | error e => rfl
    | ok _ => exact ih

/-- The loop comes to its end if every name can be looked up. -/
theorem forIn_checkFixed_eq_ok_iff {steps : List Step} :
    (forIn steps PUnit.unit fun step _ => do
      step.name.checkFixed
      pure (ForInStep.yield PUnit.unit) : Except Failure PUnit) = .ok PUnit.unit ↔
      ∀ step ∈ steps, step.name.checkFixed = .ok () := by
  rw [forIn_checkFixed_eq]
  exact Success.forM_eq_ok

/-- The reference check runs to its end if the names can be looked up and those of action steps are
texts, and then it reports the reference issues of the job. -/
theorem refIssues_eq_ok_iff {name : Label} {job : Job} {issues : List Failure} :
    refIssues name job = .ok issues ↔
      NamedByTexts job.steps ∧ (∀ step ∈ job.steps, step.name.checkFixed = .ok ())
        ∧ issues = refViolations name job := by
  have hunknown : refIssuesFrom name (job.steps.filterMap fun step => step.name.text?) 0 job.steps =
      unknownRefs name job := refIssuesFrom_eq
  unfold refIssues refViolations
  simp only [Success.bind_eq_ok, nameCollisions_eq_ok_iff, hunknown]
  constructor
  · rintro ⟨_, ⟨htexts, rfl⟩, _, hfixed, h⟩
    cases h
    exact ⟨htexts, forIn_checkFixed_eq_ok_iff.mp hfixed, rfl⟩
  · rintro ⟨htexts, hfixed, rfl⟩
    exact ⟨_, ⟨htexts, rfl⟩, _, forIn_checkFixed_eq_ok_iff.mpr hfixed, rfl⟩

theorem refIssues_eq {name : Label} {job : Job} (h : Checkable job) :
    refIssues name job = .ok (refViolations name job) :=
  refIssues_eq_ok_iff.mpr ⟨h.texts, h.fixed, rfl⟩

/-- A reference is looked at exactly if it occurs, at any depth, in a value of an action of the
steps. -/
theorem mem_refSites_iff {steps : List Step} {info : ActionInfo} {input target output : String} :
    (∃ i, (⟨i, info, input, target, output⟩ : RefSite) ∈ refSites 0 steps) ↔
      (∃ v, (input, v) ∈ info.inputValues.entries ∧ OccursIn (.stepOutput target output) v)
        ∧ ∃ step ∈ steps, step.action = some info := by
  rw [← exists_mem_actionSteps_iff]
  simp only [refSites, List.mem_flatMap, List.mem_map, RefSite.mk.injEq, Prod.exists,
    ← mem_stepOutputs_iff]
  constructor
  · rintro ⟨i, j, info', hinfo, input', v, hv, target', output', hmem, rfl, rfl, rfl, rfl, rfl⟩
    exact ⟨⟨v, hv, hmem⟩, j, hinfo⟩
  · rintro ⟨⟨v, hv, hmem⟩, i, hinfo⟩
    exact ⟨i, i, info, hinfo, input, v, hv, target, output, hmem, rfl, rfl, rfl, rfl, rfl⟩

/-- There is no reference issue exactly if the references of the job are sound. -/
theorem refViolations_eq_nil_iff {name : Label} {job : Job} :
    refViolations name job = [] ↔ RefsSound job := by
  unfold refViolations unknownRefs
  rw [List.append_eq_nil_iff, collisions_eq_nil_iff, List.filterMap_eq_nil_iff]
  have hissue : ∀ site : RefSite,
      site.issue? name (stepNames job.steps) = none ↔ HasStep job site.target := by
    intro site
    rw [← mem_stepNames_iff]
    simp [RefSite.issue?]
  simp only [hissue]
  constructor
  · rintro ⟨hdistinct, hknown⟩
    refine ⟨?_, hdistinct⟩
    intro step hstep info haction e he target output hoccurs
    obtain ⟨i, hi⟩ := mem_refSites_iff.mpr ⟨⟨e.2, he, hoccurs⟩, step, hstep, haction⟩
    exact hknown _ hi
  · intro h
    refine ⟨h.distinct, ?_⟩
    rintro ⟨i, info, input, target, output⟩ hsite
    obtain ⟨⟨v, hv, hoccurs⟩, step, hstep, haction⟩ := mem_refSites_iff.mp ⟨i, hsite⟩
    exact h.known step hstep info haction (input, v) hv target output hoccurs

end ShellFlow.Validation

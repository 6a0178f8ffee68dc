import ShellFlow.Proofs.InputType.Defaults
import ShellFlow.Proofs.InputValues
import ShellFlow.Proofs.Validation.Issues
import ShellFlow.Proofs.Validation.Outcome
import ShellFlow.Proofs.Validation.Passes

/-!
# Issues of given inputs

A step that was compiled from a call holds a value for every declared input, and the type check looks
at all of them, without a word about where they come from. A value that was filled in is the default
of its type, and the defaults of types that can be made are sound. So only what the call has given can
be reported.

* **`isAt_typeIssuesFrom`** — issues carry the position of their step.
* **`issue?_compiled`** — the issue of an input of a compiled step, from the call.
* **`typeIssues_compiled`** — the issues of a job, around those of a compiled step.
* **`checkTypes_given`** — what the check of a workflow reports about a compiled step.
-/

namespace ShellFlow

/-! ## Values of a call -/

namespace Action

/-- The issue of an input of the step at position `i`, if the call gives it a value: that the value is
absent and there is no default, or that the value is none of the type. -/
def givenIssue? (action : Action) (invocation : Invocation) (job : Label) (i : Nat) (input : String)
    (t : InputType) : Option Failure :=
  match (given invocation).get? input with
  | none => none
  | some value =>
    if value.isNull then
      if t.hasDefault then none
      else some (.missingRequiredInput action.name (.text input) (.text "action") (.int i))
    else
      match t.accepts value with
      | .ok false => some (.typeMismatch job (.int i) action.name (.text input) t.name)
      | _ => none

/-- The issues of the given inputs, in the order of their declaration. -/
def givenIssues (action : Action) (invocation : Invocation) (job : Label) (i : Nat) : List Failure :=
  action.inputs.entries.filterMap fun e => action.givenIssue? invocation job i e.1 e.2

end Action

namespace Validation

open InputType (IsBuilt)

/-! ## The issues of each step -/

/-- The type issues of the step at position `i`. -/
def stepIssues (name : Label) (i : Nat) (step : Step) : Except Failure (List Failure) :=
  match step.action with
  | none => .ok []
  | some info => inputIssues name i info info.inputs.entries

/-- The type check goes from step to step; a step that no action has made has no issues. -/
theorem typeIssuesFrom_cons (name : Label) (i : Nat) (step : Step) (rest : List Step) :
    typeIssuesFrom name i (step :: rest) = (do
      let here ← stepIssues name i step
      let more ← typeIssuesFrom name (i + 1) rest
      .ok (here ++ more)) := by
  rw [typeIssuesFrom, stepIssues]
  cases step.action <;> rfl

/-- **The issues of two groups of steps**, the second of which starts at a later position. Induction
on the first group, from every position. -/
theorem typeIssuesFrom_append (name : Label) (i : Nat) (before after : List Step) :
    typeIssuesFrom name i (before ++ after) = (do
      let front ← typeIssuesFrom name i before
      let back ← typeIssuesFrom name (i + before.length) after
      .ok (front ++ back)) := by
  induction before generalizing i with
  | nil =>
    show typeIssuesFrom name i after = (do
      let back ← typeIssuesFrom name i after
      .ok back)
    cases typeIssuesFrom name i after <;> rfl
  | cons step rest ih =>
    have hlength : i + (step :: rest).length = i + 1 + rest.length := by
      rw [List.length_cons]
      omega
    rw [List.cons_append, typeIssuesFrom_cons, typeIssuesFrom_cons, ih, hlength]
    cases stepIssues name i step with
    | error e => rfl
    | ok here =>
      cases typeIssuesFrom name (i + 1) rest with
      | error e => rfl
      | ok front =>
        cases typeIssuesFrom name (i + 1 + rest.length) after with
        | error e => rfl
        | ok back => exact congrArg Except.ok (List.append_assoc here front back).symm

/-- The issue is about an input of the step at position `i`. -/
def isAt (i : Nat) : Failure → Bool
  | .missingRequiredInput _ _ _ (.int position) => position == i
  | .typeMismatch _ (.int position) _ _ _ => position == i
  | _ => false

/-- Whatever the type check says of an input, it says at the position of its step. -/
theorem isAt_inputIssue {name : Label} {i : Nat} {info : ActionInfo} {input : String} {t : InputType}
    {issue : Failure} (h : inputIssue name i info input t = .ok (some issue)) :
    isAt i issue = true := by
  unfold inputIssue at h
  split at h
  · obtain ⟨dflt, -, h⟩ := Success.bind_eq_ok.mp h
    cases dflt with
    | some value => cases h
    | none =>
      cases h
      simp [isAt]
  · obtain ⟨passes, -, h⟩ := Success.bind_eq_ok.mp h
    cases passes with
    | true => cases h
    | false =>
      cases h
      simp [isAt]

theorem isAt_inputIssues {name : Label} {i : Nat} {info : ActionInfo}
    {inputs : List (String × InputType)} {issues : List Failure}
    (h : inputIssues name i info inputs = .ok issues) : ∀ issue ∈ issues, isAt i issue = true := by
  induction inputs generalizing issues with
  | nil =>
    cases h
    exact fun issue hissue => absurd hissue List.not_mem_nil
  | cons e rest ih =>
    obtain ⟨first, hfirst, h⟩ := Success.bind_eq_ok.mp h
    obtain ⟨more, hmore, h⟩ := Success.bind_eq_ok.mp h
    injection h with h
    subst h
    intro issue hissue
    rcases List.mem_append.mp hissue with hissue | hissue
    · rw [Option.mem_toList] at hissue
      exact isAt_inputIssue (hissue ▸ hfirst)
    · exact ih hmore issue hissue

/-- So all issues of a step are told from those of other steps by their position. -/
theorem isAt_stepIssues {name : Label} {i : Nat} {step : Step} {issues : List Failure}
    (h : stepIssues name i step = .ok issues) : ∀ issue ∈ issues, isAt i issue = true := by
  unfold stepIssues at h
  cases haction : step.action with
  | none =>
    rw [haction] at h
    cases h
    exact fun issue hissue => absurd hissue List.not_mem_nil
  | some info =>
    rw [haction] at h
    exact isAt_inputIssues h

/-- Every issue is about one of the steps. -/
theorem isAt_typeIssuesFrom {name : Label} {i : Nat} {steps : List Step} {issues : List Failure}
    (h : typeIssuesFrom name i steps = .ok issues) :
    ∀ issue ∈ issues, ∃ j, i ≤ j ∧ j < i + steps.length ∧ isAt j issue = true := by
  -- induction on the steps, with the position of the first
  induction steps generalizing i issues with
  | nil =>
    cases h
    exact fun issue hissue => absurd hissue List.not_mem_nil
  | cons step rest ih =>
    rw [typeIssuesFrom_cons] at h
    obtain ⟨here, hhere, h⟩ := Success.bind_eq_ok.mp h
    obtain ⟨more, hmore, h⟩ := Success.bind_eq_ok.mp h
    injection h with h
    subst h
    intro issue hissue
    rw [List.length_cons]
    rcases List.mem_append.mp hissue with hissue | hissue
    · exact ⟨i, Nat.le_refl i, by omega, isAt_stepIssues hhere issue hissue⟩
    · obtain ⟨j, hlower, hupper, hat⟩ := ih hmore issue hissue
      exact ⟨j, by omega, by omega, hat⟩

theorem isAt_unique {i j : Nat} {issue : Failure} (hi : isAt i issue = true)
    (hj : isAt j issue = true) : i = j := by
  unfold isAt at hi hj
  split at hi
  · simp only [beq_iff_eq] at hi hj
    omega
  · simp only [beq_iff_eq] at hi hj
    omega
  · cases hi

/-- Steps at other positions have no issue at this one. -/
theorem filter_isAt_eq_nil {name : Label} {i n : Nat} {steps : List Step} {issues : List Failure}
    (h : typeIssuesFrom name i steps = .ok issues) (hn : n < i ∨ i + steps.length ≤ n) :
    issues.filter (isAt n) = [] := by
  rw [List.filter_eq_nil_iff]
  intro issue hissue hat
  obtain ⟨j, hlower, hupper, hj⟩ := isAt_typeIssuesFrom h issue hissue
  have heq : n = j := isAt_unique hat hj
  omega

/-! ## The issues of a compiled step

Every declared input of a compiled step holds a value. It is the given one, or the default, and a
default that the library has let through passes the check. -/

/-- What is reported of an input, by whether its value is absent, whether there is a default, and
whether the type accepts the value. The check must have a result for every value. -/
theorem InputSite.issue?_eq {job : Label} {site : InputSite}
    (htotal : ∀ v, ∃ passes, site.type.check v = .ok passes) :
    site.issue? job =
      if site.value.isNull then if site.type.hasDefault then none else some site.missing
      else
        match site.type.accepts site.value with
        | .ok false => some (site.mismatch job)
        | _ => none := by
  obtain ⟨passes, hpasses⟩ := htotal site.value
  unfold issue? InputType.accepts
  cases site.value.isReference with
  | true => rfl
  | false =>
    simp only [Bool.false_eq_true, if_false, hpasses]
    cases passes <;> rfl

/-- An input that holds the default of its type has no issue if the default is sound. This is where
the values that a call has left out drop out. -/
theorem InputSite.issue?_of_sound {job : Label} {site : InputSite}
    (hdefault : site.type.hasDefault = true) (hvalue : site.value = site.type.default)
    (hsound : site.type.HasSoundDefault) (htotal : ∀ v, ∃ passes, site.type.check v = .ok passes) :
    site.issue? job = none := by
  rw [issue?_eq htotal, hdefault, hvalue]
  rcases hsound with h | h | h
  -- the mark of an input without a default is no default
  · simp [InputType.hasDefault, h, Value.isNoDefault] at hdefault
  · simp [h, Value.isNull]
  · simp [h]

section Compiled

variable {action : Action} {invocation : Invocation} {carry : CarryChannel}
  (htypes : ∀ e ∈ action.inputs.entries, e.2.IsBuilt (· = .noDefault))

include htypes

/-- An input of a compiled step has the issue of what the call gives to it, and none if the call gives
nothing. -/
theorem issue?_compiled (c : Action.Compilation action invocation carry) (job : Label) (i : Nat)
    {e : String × InputType} (he : e ∈ action.inputs.entries) :
    InputSite.issue? job ⟨i, c.info, e.1, e.2⟩ = action.givenIssue? invocation job i e.1 e.2 := by
  have hbuilt : e.2.IsBuilt (· = .noDefault) := htypes e he
  have hfills := Invocation.fills_of_resolve (fun e he => (htypes e he).stray_eq_none) c.resolve_eq
  let site : InputSite := ⟨i, c.info, e.1, e.2⟩
  have hvalue : site.value = Invocation.valueOf (Action.given invocation) e := by
    show (c.resolved.get? e.1).getD .null = _
    rw [hfills.get?_eq he]
    rfl
  show site.issue? job = _
  unfold Action.givenIssue?
  -- the alias is left out before the inputs are resolved, so both sides look at the same values
  cases hgiven : (Action.given invocation).get? e.1 with
  | some value =>
    have hvalue : site.value = value := by rw [hvalue, Invocation.valueOf, hgiven, Option.getD_some]
    rw [InputSite.issue?_eq hbuilt.check_total, hvalue]
    rfl
  | none =>
    have hvalue : site.value = e.2.default := by
      rw [hvalue, Invocation.valueOf, hgiven, Option.getD_none]
    have hdefault : e.2.hasDefault = true := by
      by_contra hnone
      exact hfills.complete e he ⟨OrderedMap.get?_eq_none_iff.mp hgiven, by simpa using hnone⟩
    -- custom types without a default of their own have nothing that could be unsound
    have hsound : e.2.HasSoundDefault := by
      rcases hbuilt.default_cases with hsound | ⟨hnone, -⟩
      · exact hsound
      · exact Or.inl hnone
    exact InputSite.issue?_of_sound hdefault hvalue hsound hbuilt.check_total

/-- **The issues of a compiled step are those of its given inputs.** Every input that was left out
has the default of a type that could be made. -/
theorem stepIssues_compiled (c : Action.Compilation action invocation carry) (job : Label) (i : Nat) :
    stepIssues job i c.step = .ok (action.givenIssues invocation job i) := by
  have htotal : ∀ e ∈ action.inputs.entries,
      e.2.stray = none ∧ ∀ v, ∃ passes, e.2.check v = .ok passes :=
    fun e he => ⟨(htypes e he).stray_eq_none, (htypes e he).check_total⟩
  show inputIssues job i c.info action.inputs.entries = _
  rw [inputIssues_eq htotal, List.filterMap_map]
  exact congrArg Except.ok (List.filterMap_congr fun e he => issue?_compiled htypes c job i he)

/-- A job with a compiled step has the issues of the steps before it, those of what the call gives, and
the issues of the steps after it. -/
theorem typeIssues_compiled (c : Action.Compilation action invocation carry) (name : Label) {job : Job}
    {before after : List Step} (hsteps : job.steps = before ++ c.step :: after) :
    typeIssues name job = (do
      let front ← typeIssuesFrom name 0 before
      let back ← typeIssuesFrom name (before.length + 1) after
      .ok (front ++ action.givenIssues invocation name before.length ++ back)) := by
  rw [typeIssues, hsteps, typeIssuesFrom_append, Nat.zero_add, typeIssuesFrom_cons,
    stepIssues_compiled htypes]
  cases typeIssuesFrom name 0 before with
  | error e => rfl
  | ok front =>
    cases typeIssuesFrom name (before.length + 1) after with
    | error e => rfl
    | ok back => exact congrArg Except.ok (List.append_assoc front _ back).symm

/-- Of all issues of a job, those at the position of the compiled step are its own, whatever stands
before and after it. -/
theorem filter_typeIssues_compiled (c : Action.Compilation action invocation carry) {name : Label}
    {job : Job} {before after : List Step} (hsteps : job.steps = before ++ c.step :: after)
    {issues : List Failure} (h : typeIssues name job = .ok issues) :
    issues.filter (isAt before.length) = action.givenIssues invocation name before.length := by
  rw [typeIssues_compiled htypes c name hsteps] at h
  obtain ⟨front, hfront, h⟩ := Success.bind_eq_ok.mp h
  obtain ⟨back, hback, h⟩ := Success.bind_eq_ok.mp h
  injection h with h
  subst h
  -- the other steps stand at other positions
  have hhere : (action.givenIssues invocation name before.length).filter (isAt before.length) =
      action.givenIssues invocation name before.length :=
    List.filter_eq_self.mpr (isAt_stepIssues (stepIssues_compiled htypes c name before.length))
  rw [List.filter_append, List.filter_append, hhere, filter_isAt_eq_nil hfront (by omega),
    filter_isAt_eq_nil hback (by omega), List.nil_append, List.append_nil]

/-- **What a check of the input values of a workflow reports about a compiled step, in any job**:
the issues of the given inputs, in the order of their declaration. A value that was filled in is
never reported. The first part is about the issues of the job, the next two read an acceptance and a
rejection of the job backwards, and the last one says when the job is the one that is reported. -/
theorem checkTypes_given {step : Step} (hcompile : action.compile invocation carry = .ok step)
    {w : Workflow} {key : String} {job : Job} (hjob : w.jobs.get? key = some job)
    {before after : List Step} (hsteps : job.steps = before ++ step :: after) :
    typeIssues (.text key) job = (do
      let front ← typeIssuesFrom (.text key) 0 before
      let back ← typeIssuesFrom (.text key) (before.length + 1) after
      .ok (front ++ action.givenIssues invocation (.text key) before.length ++ back))
    ∧ (∀ v, checkTypes w = .ok (.accepted v) →
        action.givenIssues invocation (.text key) before.length = [])
    ∧ (∀ title issues, checkTypes w = .ok (.rejected title (.text key) issues) →
        issues.filter (isAt before.length) =
          action.givenIssues invocation (.text key) before.length)
    ∧ ∀ earlier later front back,
        w.jobs.entries = earlier ++ (key, job) :: later →
        (∀ e ∈ earlier, typeIssues (.text e.1) e.2 = .ok []) →
        typeIssuesFrom (.text key) 0 before = .ok front →
        typeIssuesFrom (.text key) (before.length + 1) after = .ok back →
        front ++ action.givenIssues invocation (.text key) before.length ++ back ≠ [] →
        checkTypes w = .ok (.rejected Verdict.defaultTitle (.text key)
          (front ++ action.givenIssues invocation (.text key) before.length ++ back)) := by
  obtain ⟨c, rfl⟩ := Action.compile_eq_ok_iff.mp hcompile
  have hmem : (key, job) ∈ w.jobs.entries := OrderedMap.get?_eq_some_iff.mp hjob
  refine ⟨typeIssues_compiled htypes c _ hsteps, ?_, ?_, ?_⟩
  · intro v hv
    obtain ⟨found, hfound, h⟩ := Success.bind_eq_ok.mp hv
    cases found with
    | some rejected => cases h
    | none =>
      have hclean := firstRejection_eq_none_iff.mp hfound (key, job) hmem
      exact (filter_typeIssues_compiled htypes c hsteps hclean).symm
  · intro title issues hrejected
    obtain ⟨found, hfound, h⟩ := Success.bind_eq_ok.mp hrejected
    cases found with
    | none => cases h
    | some rejected =>
      obtain ⟨name, found⟩ := rejected
      cases h
      obtain ⟨earlier, key', job', later, hentries, -, hissues, -, hname⟩ :=
        firstRejection_eq_some_iff.mp hfound
      -- the rejected job is the one under the key
      obtain rfl : key = key' := Value.text.inj hname
      have hmem' : (key, job') ∈ w.jobs.entries := hentries ▸ List.mem_append_right _ List.mem_cons_self
      have hjob' : some job' = some job := (OrderedMap.get?_eq_some_iff.mpr hmem').symm.trans hjob
      obtain rfl := Option.some.inj hjob'
      exact filter_typeIssues_compiled htypes c hsteps hissues
  · intro earlier later front back hentries hearlier hfront hback hne
    have hissues : typeIssues (.text key) job =
        .ok (front ++ action.givenIssues invocation (.text key) before.length ++ back) := by
      rw [typeIssues_compiled htypes c _ hsteps, hfront, hback]
      rfl
    have hfirst := firstRejection_eq_some_iff.mpr
      ⟨earlier, key, job, later, hentries, hearlier, hissues, hne, rfl⟩
    unfold checkTypes check
    rw [hfirst]
    rfl

end Compiled

/-! ## A step with given and filled in values -/

/-- Tags an image a number of times. The tag has a default. -/
def tagImage : Action where
  name := .text "tag-image"
  run := .text ""
  inputs := OrderedMap.ofList
    [("count", .integer), ("tag", { InputType.string with default := .text "latest" }),
      ("note", .string)]
  outputs := []
  packages := []
  description := .text ""

/-- A call with a count that is no number, no tag, and an absent note. -/
def tagInvocation : Invocation :=
  OrderedMap.ofList [("count", .text "two"), ("as", .text "release"), ("note", .null)]

/-- The types of the example are made by the library, one of them with a default. -/
theorem isBuilt_tagImage : ∀ e ∈ tagImage.inputs.entries, e.2.IsBuilt (· = .noDefault) := by
  intro e he
  rcases List.mem_cons.mp he with rfl | he
  · exact IsBuilt.integer
  · rcases List.mem_cons.mp he with rfl | he
    · exact IsBuilt.withDefault IsBuilt.string (InputType.withDefault_of_sound (Or.inr rfl))
    · cases List.mem_singleton.mp he
      exact IsBuilt.string

/-- A job that calls the action after a command. -/
def publishJob (call : Step) : Job :=
  stepsJob "publish" [Step.plain (.text "fetch") (.text "fetch"), call]

def publishWorkflow (call : Step) : Workflow where
  name := .text "images"
  jobs := OrderedMap.ofList [("publish", publishJob call)]
  env := ∅
  named := by
    intro e he
    cases List.mem_singleton.mp he
    rfl

/-- The count and the note are reported, the tag is not. -/
theorem checkTypes_given_publish :
    ∃ call, tagImage.compile tagInvocation = .ok call
      ∧ checkTypes (publishWorkflow call) =
          .ok (.rejected Verdict.defaultTitle (.text "publish")
            [.typeMismatch (.text "publish") (.int 1) (.text "tag-image") (.text "count")
                (.text "int"),
              .missingRequiredInput (.text "tag-image") (.text "note") (.text "action") (.int 1)]) := by
  obtain ⟨call, hcall⟩ : ∃ call, tagImage.compile tagInvocation = .ok call := ⟨_, rfl⟩
  refine ⟨call, hcall, ?_⟩
  have hjob : (publishWorkflow call).jobs.get? "publish" = some (publishJob call) := rfl
  have hsteps : (publishJob call).steps =
      [Step.plain (.text "fetch") (.text "fetch")] ++ call :: [] := rfl
  have hgiven : tagImage.givenIssues tagInvocation (.text "publish") 1 =
      [.typeMismatch (.text "publish") (.int 1) (.text "tag-image") (.text "count") (.text "int"),
        .missingRequiredInput (.text "tag-image") (.text "note") (.text "action") (.int 1)] := rfl
  obtain ⟨-, -, -, hreports⟩ := checkTypes_given isBuilt_tagImage hcall hjob hsteps
  exact hreports [] [] [] [] rfl (by simp) rfl rfl (by simp [hgiven])

end Validation

end ShellFlow

import ShellFlow.Proofs.InputValues
import ShellFlow.Proofs.Job.Collisions
import ShellFlow.Proofs.Job.Compilation

/-!
# Calls of job templates

A call of a template can fail in several ways, and more than one of them may apply at once. They are
tried in a fixed order: the names of the call, the values of the inputs, the steps, the names of the
steps, the executor. `Outcome` has a case for each, with everything that comes before it; what a call
adds to the lists of the template is read last of all.

* **`compile_of_outcome`** — each case leads to its result.
* **`exists_outcome`** — one of the cases applies to every call.
* **`compile_outcome`** — both together, and the values that a compiled job remembers.
-/

namespace ShellFlow.JobTemplate

open Invocation

/-! ## What a call says -/

/-- The steps of a template for the resolved values, which only a function looks at. -/
inductive MakesSteps (template : JobTemplate) (resolved : Invocation) :
    Except Failure (List Step) → Prop
  | fixed {steps : List Step} :
      template.steps = .fixed steps → MakesSteps template resolved (.ok steps)
  | computed {produce : JobContext → Except Failure (List Step)} :
      template.steps = .computed produce →
      MakesSteps template resolved (produce { inputs := resolved, job := template.name })

/-- The executor of a call is its own, whatever it is but absent, or else that of the template. It is
absent if neither has one. -/
inductive RunsOn (template : JobTemplate) (invocation : Invocation) : Value → Prop
  | own {executor : Value} :
      invocation.get? "executor" = some executor → executor ≠ .null →
      RunsOn template invocation executor
  | inherited :
      (∀ executor, invocation.get? "executor" = some executor → executor = .null) →
      RunsOn template invocation template.executor

/-- The items that a call gives under a name. What counts as false gives none. -/
inductive Adds (invocation : Invocation) (key : String) : List Value → Prop
  | absent : invocation.get? key = none → Adds invocation key []
  | empty {v : Value} :
      invocation.get? key = some v → v.isTruthy = false → Adds invocation key []
  | items {v : Value} {items : List Value} :
      invocation.get? key = some v → v.isTruthy = true → v.items = .ok items →
      Adds invocation key items

/-- What a call adds to the lists of the template are lists. -/
def AddsLists (invocation : Invocation) : Prop :=
  (∃ needs, Adds invocation "needs" needs)
  ∧ ∃ artifactInputs, Adds invocation "artifact_inputs" artifactInputs

/-- The outcome of a call, by the first thing that is wrong with it. -/
inductive Outcome (template : JobTemplate) (invocation : Invocation) : Except Failure Job → Prop
  | unknown {key : String} :
      FirstUndeclared template.inputs (given invocation) key →
      Outcome template invocation
        (.error (unknownInput template.name template.inputs "job" key))
  | missing {name : String} :
      AllDeclared template.inputs (given invocation) →
      FirstLacking template.inputs (given invocation) name →
      Outcome template invocation (.error (missingInput template.name "job" name))
  | stepsFail {resolved : Invocation} {e : Failure} :
      Fills template.inputs (given invocation) resolved →
      MakesSteps template resolved (.error e) →
      Outcome template invocation (.error e)
  | collide {resolved : Invocation} {steps : List Step} :
      Fills template.inputs (given invocation) resolved →
      MakesSteps template resolved (.ok steps) →
      ¬ DistinctStems steps →
      Outcome template invocation
        (.error (.validation (.text "Name collision") template.name
          (collisions template.name steps)))
  | noExecutor {resolved : Invocation} {steps : List Step} :
      Fills template.inputs (given invocation) resolved →
      MakesSteps template resolved (.ok steps) →
      DistinctStems steps →
      RunsOn template invocation .null →
      Outcome template invocation (.error (.missingExecutor template.name))
  | made {resolved : Invocation} {steps : List Step} {executor : Value}
      {needs artifactInputs : List Value} :
      Fills template.inputs (given invocation) resolved →
      MakesSteps template resolved (.ok steps) →
      DistinctStems steps →
      RunsOn template invocation executor → executor ≠ .null →
      Adds invocation "needs" needs →
      Adds invocation "artifact_inputs" artifactInputs →
      Outcome template invocation
        (.ok (template.jobOf resolved steps executor needs artifactInputs))

variable {template : JobTemplate} {invocation resolved : Invocation}

/-! ## The parts of a call -/

/-- The steps of a template are those that `MakesSteps` tells, a failure of the function
included. -/
theorem stepsFor_of_makesSteps {result : Except Failure (List Step)}
    (h : MakesSteps template resolved result) : template.stepsFor resolved = result := by
  unfold stepsFor
  cases h with
  | fixed hsteps => rw [hsteps]
  | computed hsteps => rw [hsteps]

/-- A template has steps or a function that makes them, so something always comes of it. -/
theorem exists_makesSteps (template : JobTemplate) (resolved : Invocation) :
    ∃ result, MakesSteps template resolved result := by
  cases hsteps : template.steps with
  | fixed steps => exact ⟨_, .fixed hsteps⟩
  | computed produce => exact ⟨_, .computed hsteps⟩

/-- A call is refused for its executor exactly if the executor is the absent value. An empty text is
an executor like any other. -/
theorem executorFor_of_runsOn {executor : Value} (h : RunsOn template invocation executor) :
    template.executorFor invocation =
      if executor.isNull then .error (.missingExecutor template.name) else .ok executor := by
  unfold executorFor
  cases h with
  | own hgiven hne =>
    rw [hgiven, Option.getD_some]
    cases executor with
    | null => exact absurd rfl hne
    | _ => rfl
  | inherited hnone =>
    have habsent : (invocation.get? "executor").getD .null = .null := by
      cases hgiven : invocation.get? "executor" with
      | none => rfl
      | some executor => exact hnone executor hgiven
    rw [habsent]
    cases template.executor <;> rfl

/-- Every call has an executor in this sense, which may be the absent value. -/
theorem exists_runsOn (template : JobTemplate) (invocation : Invocation) :
    ∃ executor, RunsOn template invocation executor := by
  by_cases h : ∀ executor, invocation.get? "executor" = some executor → executor = .null
  · exact ⟨_, .inherited h⟩
  · push Not at h
    obtain ⟨executor, hgiven, hne⟩ := h
    exact ⟨executor, .own hgiven hne⟩

/-- What a call adds to a list is read as `Adds` tells it. -/
theorem added_of_adds {key : String} {items : List Value} (h : Adds invocation key items) :
    added invocation key = .ok items := by
  unfold added Value.itemsOrNone
  cases h with
  | absent hnone => rw [hnone]; rfl
  | empty hgiven hfalse => simp [hgiven, hfalse]
  | items hgiven htrue hitems => simp [hgiven, htrue, hitems]

/-! ## The outcome

There are six ways in which a call can end. They exclude each other, as each of them says that nothing
has gone wrong before it. -/

section

variable (htypes : HoldsTypes template.inputs)
  (hnames : ∀ resolved steps, MakesSteps template resolved (.ok steps) → NamedByTexts steps)

include htypes hnames

/-- A call does what its outcome says. One case for each outcome, by the lemmas on the single
stages. -/
theorem compile_of_outcome {result : Except Failure Job} (h : Outcome template invocation result) :
    template.compile invocation = result := by
  have hscan : ∀ {resolved steps}, MakesSteps template resolved (.ok steps) →
      nameCollisions template.name steps = .ok (collisions template.name steps) :=
    fun hsteps => nameCollisions_eq_ok_iff.mpr ⟨hnames _ _ hsteps, rfl⟩
  have hnone : ∀ {resolved steps}, MakesSteps template resolved (.ok steps) → DistinctStems steps →
      nameCollisions template.name steps = .ok [] := by
    intro resolved steps hsteps hdistinct
    rw [hscan hsteps, collisions_eq_nil_iff.mpr hdistinct]
  cases h with
  -- each reason with all that went well before it
  | unknown hkey => exact compile_of_resolve_eq_error (resolve_of_firstUndeclared hkey)
  | missing hdeclared hname =>
    exact compile_of_resolve_eq_error (resolve_of_firstLacking htypes hdeclared hname)
  | stepsFail hfills hsteps =>
    exact compile_of_stepsFor_eq_error (resolve_of_fills htypes hfills)
      (stepsFor_of_makesSteps hsteps)
  | collide hfills hsteps hshared =>
    exact compile_of_nameCollisions (resolve_of_fills htypes hfills) (stepsFor_of_makesSteps hsteps)
      (hscan hsteps) (mt collisions_eq_nil_iff.mp hshared)
  | noExecutor hfills hsteps hdistinct hruns =>
    exact compile_of_executorFor_eq_error (resolve_of_fills htypes hfills)
      (stepsFor_of_makesSteps hsteps) (hnone hsteps hdistinct) (executorFor_of_runsOn hruns)
  | @made resolved steps executor needs artifactInputs hfills hsteps hdistinct hruns hne hneeds
      hinputs =>
    have hexecutor : template.executorFor invocation = .ok executor := by
      rw [executorFor_of_runsOn hruns, if_neg (mt Value.isNull_eq_true_iff.mp hne)]
    exact compile_eq_ok_iff.mpr ⟨⟨resolved, steps, executor, needs, artifactInputs,
      resolve_of_fills htypes hfills, stepsFor_of_makesSteps hsteps, hnone hsteps hdistinct,
      hexecutor, added_of_adds hneeds, added_of_adds hinputs⟩, rfl⟩

omit htypes hnames in
/-- The outcomes leave no case out: each stage fails in its own way, or it succeeds and the next one
is looked at. -/
theorem exists_outcome (template : JobTemplate) (hlists : AddsLists invocation) :
    ∃ result, Outcome template invocation result := by
  by_cases hdeclared : AllDeclared template.inputs (given invocation)
  · by_cases hcomplete : NoneLacking template.inputs (given invocation)
    · obtain ⟨resolved, hfills⟩ := exists_fills hdeclared hcomplete
      obtain ⟨result, hsteps⟩ := exists_makesSteps template resolved
      cases result with
      | error e => exact ⟨_, .stepsFail hfills hsteps⟩
      | ok steps =>
        by_cases hdistinct : DistinctStems steps
        · obtain ⟨executor, hruns⟩ := exists_runsOn template invocation
          obtain ⟨⟨needs, hneeds⟩, artifactInputs, hinputs⟩ := hlists
          by_cases hnull : executor = .null
          · exact ⟨_, .noExecutor hfills hsteps hdistinct (hnull ▸ hruns)⟩
          · exact ⟨_, .made hfills hsteps hdistinct hruns hnull hneeds hinputs⟩
        · exact ⟨_, .collide hfills hsteps hdistinct⟩
    · obtain ⟨name, hname⟩ := exists_firstLacking_iff.mpr hcomplete
      exact ⟨_, .missing hdeclared hname⟩
  · obtain ⟨key, hkey⟩ := exists_firstUndeclared_iff.mpr hdeclared
    exact ⟨_, .unknown hkey⟩

end

/-- **The outcome of a call of a job template.** A call of a defined template fails for the first
reason there is, or else gives the job that its parts make up; of what it adds to lists no more is
asked than that they are lists. The values that the job remembers are those of the declared inputs,
and none of these has a reserved name. `Outcome` has one rule for each way a call can end, so the
first two parts say that it describes compiling rightly and leaves no call out. -/
theorem compile_outcome {declared : JobTemplate} {lists : Lists}
    (hdefine : define declared lists = .ok template) (htypes : HoldsTypes template.inputs)
    (hnames : ∀ resolved steps, MakesSteps template resolved (.ok steps) → NamedByTexts steps) :
    (∀ invocation result, Outcome template invocation result → template.compile invocation = result)
    ∧ (∀ invocation, AddsLists invocation → ∃ result, Outcome template invocation result)
    ∧ ∀ invocation job, template.compile invocation = .ok job →
        ∃ info, job.info = some info ∧ info.inputValues.keys = template.inputs.keys
          ∧ ∀ key ∈ reservedKeys, key ∉ info.inputValues.keys := by
  refine ⟨fun _ _ => compile_of_outcome htypes hnames, fun _ => exists_outcome template, ?_⟩
  intro invocation job hcompile
  obtain ⟨c, rfl⟩ := compile_eq_ok_iff.mp hcompile
  obtain ⟨hreserved, -, htemplate⟩ := define_eq_ok hdefine
  have hkeys := (fills_of_resolve htypes c.resolve_eq).keys
  refine ⟨_, rfl, hkeys, fun key hkey => ?_⟩
  show key ∉ c.resolved.keys
  rw [hkeys, htemplate]
  exact hreserved key hkey

/-! ## A call with an executor that counts as false -/

/-- A job with an input that has a default; the value is the script of its only step. -/
def rolloutDeclared : JobTemplate where
  name := .text "rollout"
  inputs := OrderedMap.ofList [("stage", { InputType.string with default := .text "test" })]
  steps := .computed fun context =>
    .ok [Step.plain (.text "announce") ((context.inputs.get? "stage").getD .null)]
  executor := .text "local"

def rolloutTemplate : JobTemplate := { rolloutDeclared with needs := [.text "build"] }

/-- The call repeats a need and gives the absent value where artifacts may stand. -/
def rolloutCall : Invocation :=
  OrderedMap.ofList
    [("executor", .text ""), ("needs", .list [.text "build"]), ("artifact_inputs", .null)]

/-- A job whose only step is made of a default, called with an empty executor and an absent list. -/
theorem compile_outcome_rollout :
    define rolloutDeclared { needs := .list [.text "build"] } = .ok rolloutTemplate
    ∧ HoldsTypes rolloutTemplate.inputs
    ∧ (∀ resolved steps, MakesSteps rolloutTemplate resolved (.ok steps) → NamedByTexts steps)
    ∧ rolloutTemplate.compile rolloutCall =
        .ok (rolloutTemplate.jobOf (OrderedMap.ofList [("stage", .text "test")])
          [Step.plain (.text "announce") (.text "test")] (.text "") [.text "build"] []) := by
  have hdefine : define rolloutDeclared { needs := .list [.text "build"] } = .ok rolloutTemplate :=
    rfl
  have htypes : HoldsTypes rolloutTemplate.inputs := by
    intro e he
    cases List.mem_singleton.mp he
    rfl
  have hnames : ∀ resolved steps, MakesSteps rolloutTemplate resolved (.ok steps) →
      NamedByTexts steps := by
    intro resolved steps hsteps step hstep haction
    rw [← Except.ok.inj (stepsFor_of_makesSteps hsteps)] at hstep
    cases List.mem_singleton.mp hstep
    cases haction
  obtain ⟨houtcome, -, -⟩ := compile_outcome hdefine htypes hnames
  refine ⟨hdefine, htypes, hnames, houtcome _ _ ?_⟩
  have hfills : Fills rolloutTemplate.inputs (given rolloutCall)
      (OrderedMap.ofList [("stage", .text "test")]) :=
    ⟨by decide, by decide, rfl⟩
  have hdistinct : DistinctStems [Step.plain (.text "announce") (.text "test")] := by
    rw [← nodup_stems_iff]
    exact List.nodup_nil
  have hsteps : MakesSteps rolloutTemplate (OrderedMap.ofList [("stage", .text "test")])
      (.ok [Step.plain (.text "announce") (.text "test")]) :=
    @MakesSteps.computed rolloutTemplate _ _ rfl
  exact .made hfills hsteps hdistinct (.own rfl nofun) nofun (.items rfl rfl rfl)
    (.empty rfl rfl)

end ShellFlow.JobTemplate

import ShellFlow.Proofs.Action.Exports
import ShellFlow.Proofs.Job.Compilation
import ShellFlow.Proofs.Validation.Issues
import ShellFlow.Proofs.Validation.Passes

/-!
# Variables that two outputs share

The variable of an output is the sanitized name of the step, an underscore and the sanitized name of
the output. Both names may have underscores too, so the variable does not tell where the one ends and
the other begins: accepted jobs have steps with distinct stems, and two of their outputs may still be
exported under one variable.

* **`stepOutputVar_eq_iff`** — when two outputs have one variable, for any names.
* **`sanitize_eq_iff_of_isShellName`** — when two shell names sanitize alike.
* **`distinctStems_of_isAccepted`** — what an accepted job promises.
* **`exported_eq_iff`** — when two outputs of an accepted job are exported under one variable.
-/

namespace ShellFlow

/-! ## Variables with two readings

The variable of an output has the name of the step and that of the output with an underscore in
between, and both may have underscores as well. -/

/-- The second step has a longer name than the first, and what it has more begins the output of the
first, of which the output of the second is the rest. -/
def Overlaps (step output step' output' : String) : Prop :=
  ∃ r, sanitize step' = sanitize step ++ "_" ++ r ∧ sanitize output = r ++ "_" ++ sanitize output'

/-- Two names overlap if, as characters, the longer step name goes on with an underscore and with
what begins the other output. -/
theorem overlaps_of_append {step output step' output' : String} {more : List Char}
    (hstep : (sanitize step').toList = (sanitize step).toList ++ '_' :: more)
    (houtput : (sanitize output).toList = more ++ '_' :: (sanitize output').toList) :
    Overlaps step output step' output' := by
  refine ⟨String.ofList more, String.toList_inj.mp ?_, String.toList_inj.mp ?_⟩
  · simp [hstep]
  · simp [houtput]

/-- Two outputs have the same variable if the sanitized names are the same, or if an underscore in a
name is taken for the one between the names. -/
theorem stepOutputVar_eq_iff {step output step' output' : String} :
    stepOutputVar step output = stepOutputVar step' output' ↔
      (sanitize step = sanitize step' ∧ sanitize output = sanitize output')
      ∨ Overlaps step output step' output' ∨ Overlaps step' output' step output := by
  have hvar : stepOutputVar step output = stepOutputVar step' output' ↔
      (sanitize step).toList ++ '_' :: (sanitize output).toList =
        (sanitize step').toList ++ '_' :: (sanitize output').toList := by
    rw [← String.toList_inj]
    simp [stepOutputVar]
  rw [hvar]
  constructor
  · intro h
    rcases List.append_eq_append_iff.mp h with ⟨more, hstep, hrest⟩ | ⟨more, hstep, hrest⟩
    -- the second step name goes on where the first ends, and what it has more is `more`
    · cases more with
      | nil =>
        obtain ⟨-, houtput⟩ := List.cons.inj hrest
        rw [List.append_nil] at hstep
        exact Or.inl ⟨(String.toList_inj.mp hstep).symm, String.toList_inj.mp houtput⟩
      | cons c more =>
        obtain ⟨rfl, houtput⟩ := List.cons.inj hrest
        exact Or.inr (Or.inl (overlaps_of_append hstep houtput))
    -- the first goes on where the second ends
    · cases more with
      | nil =>
        obtain ⟨-, houtput⟩ := List.cons.inj hrest
        rw [List.append_nil] at hstep
        exact Or.inl ⟨String.toList_inj.mp hstep, (String.toList_inj.mp houtput).symm⟩
      | cons c more =>
        obtain ⟨rfl, houtput⟩ := List.cons.inj hrest
        exact Or.inr (Or.inr (overlaps_of_append hstep houtput))
  · rintro (⟨hstep, houtput⟩ | ⟨r, hstep, houtput⟩ | ⟨r, hstep, houtput⟩)
    · rw [hstep, houtput]
    · rw [hstep, houtput]
      simp
    · rw [hstep, houtput]
      simp

/-- The names of one step do not overlap: a text is not longer than itself. -/
theorem not_overlaps_self (step output output' : String) :
    ¬ Overlaps step output step output' := by
  rintro ⟨r, hstep, -⟩
  have hlength := congrArg (fun s => s.toList.length) hstep
  simp at hlength

/-! ## Shell names that sanitize alike -/

/-- One name ends with a newline where the other ends with an underscore. -/
def Twins (output output' : String) : Prop :=
  ∃ n, (output = n ++ "\n" ∧ output' = n ++ "_") ∨ (output = n ++ "_" ∧ output' = n ++ "\n")

/-- Sanitizing goes character by character, so it respects putting texts together. -/
theorem sanitize_append (s t : String) : sanitize (s ++ t) = sanitize s ++ sanitize t := by
  rw [← String.toList_inj]
  simp [sanitize]

/-- Sanitizing changes no more of a shell name than a newline at its end. -/
theorem sanitize_of_isShellName {s : String} (h : isShellName s = true) :
    sanitize s = s ∨ ∃ n, s = n ++ "\n" ∧ sanitize s = n ++ "_" := by
  rcases (isShellName_iff s).mp h with hident | ⟨n, hident, rfl⟩
  · exact Or.inl (sanitize_of_isIdentifier hident)
  · have hnewline : sanitize "\n" = "_" := by decide
    exact Or.inr ⟨n, rfl, by rw [sanitize_append, sanitize_of_isIdentifier hident, hnewline]⟩

/-- Two shell names sanitize alike if they are the same or twins, because no more of them is changed
than a newline at the end. -/
theorem sanitize_eq_iff_of_isShellName {output output' : String}
    (h : isShellName output = true) (h' : isShellName output' = true) :
    sanitize output = sanitize output' ↔ output = output' ∨ Twins output output' := by
  have hnewline : sanitize "\n" = "_" := by decide
  have hunderscore : sanitize "_" = "_" := by decide
  constructor
  · intro heq
    rcases sanitize_of_isShellName h with hs | ⟨n, hs, hn⟩
    · rcases sanitize_of_isShellName h' with hs' | ⟨n', hs', hn'⟩
      · exact Or.inl (by rw [← hs, heq, hs'])
      · exact Or.inr ⟨n', Or.inr ⟨by rw [← hs, heq, hn'], hs'⟩⟩
    · rcases sanitize_of_isShellName h' with hs' | ⟨n', hs', hn'⟩
      · exact Or.inr ⟨n, Or.inl ⟨hs, by rw [← hs', ← heq, hn]⟩⟩
      · have hsame : n ++ "_" = n' ++ "_" := by rw [← hn, heq, hn']
        have hfront : n = n' := by simpa using hsame
        exact Or.inl (by rw [hs, hs', hfront])
  · rintro (rfl | ⟨n, ⟨rfl, rfl⟩ | ⟨rfl, rfl⟩⟩)
    · rfl
    · rw [sanitize_append, sanitize_append, hnewline, hunderscore]
    · rw [sanitize_append, sanitize_append, hnewline, hunderscore]

/-! ## Accepted jobs -/

/-- The step was compiled from a call of a defined action. -/
inductive Step.IsCompiled : Step → Prop
  | mk {name : Label} {run : Value} {inputs : Schema} {outputs packages : Value}
      {description : Label} {action : Action} {invocation : Invocation} {carry : CarryChannel}
      {step : Step} :
      Action.define name run inputs outputs packages description = .ok action →
      action.compile invocation carry = .ok step → IsCompiled step

/-- The job was compiled from a template, or it stands in a workflow that the reference check lets
through. -/
inductive Job.IsAccepted : Job → Prop
  | compiled {template : JobTemplate} {invocation : Invocation} {job : Job} :
      template.compile invocation = .ok job → IsAccepted job
  | validated {w w' : Workflow} {key : String} {job : Job} :
      Validation.validateStepRefs w = .ok w' → (key, job) ∈ w.jobs.entries → IsAccepted job

/-- In an accepted job no two action steps have the same stem. This is all that is checked of
variables. -/
theorem distinctStems_of_isAccepted {job : Job} (h : job.IsAccepted) :
    DistinctStems job.steps := by
  cases h with
  | @compiled template invocation _ hcompile =>
    obtain ⟨c, rfl⟩ := JobTemplate.compile_eq_ok_iff.mp hcompile
    have hcollisions := (nameCollisions_eq_ok_iff.mp c.collisions_eq).2
    exact collisions_eq_nil_iff.mp hcollisions.symm
  | @validated w w' key _ hvalidate hjob =>
    have hissues := (Validation.validateStepRefs_eq_ok_iff.mp hvalidate).2 (key, job) hjob
    have hviolations := (Validation.refIssues_eq_ok_iff.mp hissues).2.2
    exact (Validation.refViolations_eq_nil_iff.mp hviolations.symm).distinct

/-! ## Exports of an accepted job -/

theorem Step.IsCompiled.action_isSome {step : Step} (h : step.IsCompiled) :
    step.action.isSome = true := by
  cases h with
  | mk _ hcompile =>
    obtain ⟨c, rfl⟩ := Action.compile_eq_ok_iff.mp hcompile
    rfl

/-- An exported output of a compiled step has a shell name and the variable of the step. -/
theorem Step.IsCompiled.exported {step : Step} (h : step.IsCompiled) {output var : String}
    (hvar : step.exports.get? output = some var) :
    ∃ name, step.name = .text name ∧ var = stepOutputVar name output
      ∧ isShellName output = true := by
  cases h with
  | mk hdefine hcompile =>
    obtain ⟨c, rfl⟩ := Action.compile_eq_ok_iff.mp hcompile
    obtain ⟨name, hname⟩ := c.exists_name hvar
    rw [c.get?_exported hname] at hvar
    split at hvar
    · rename_i hmem
      injection hvar with hvar
      exact ⟨name, hname, hvar.symm, Action.isShellName_of_define hdefine output hmem⟩
    · cases hvar

/-- **When two outputs of an accepted job are exported under one variable.** There are two cases
only: they are outputs of one step whose names differ in a last newline or underscore, or outputs of
two steps of which the one is named like the other with a beginning of its output. In the first case
the stems are equal, and the outputs decide. In the second the stems differ, as the job would not
have been accepted otherwise, so the underscore between the names is read at two places. -/
theorem exported_eq_iff {job : Job} (hjob : job.IsAccepted) {i j : Nat} {s t : Step}
    (hi : job.steps[i]? = some s) (hj : job.steps[j]? = some t)
    (hs : s.IsCompiled) (ht : t.IsCompiled) {o p x y : String}
    (hx : s.exports.get? o = some x) (hy : t.exports.get? p = some y) (hne : (i, o) ≠ (j, p)) :
    ∃ a b, s.name = .text a ∧ t.name = .text b ∧ x = stepOutputVar a o ∧ y = stepOutputVar b p
      ∧ (x = y ↔ (i = j ∧ Twins o p) ∨ (i ≠ j ∧ (Overlaps a o b p ∨ Overlaps b p a o))) := by
  obtain ⟨a, ha, rfl, ho⟩ := hs.exported hx
  obtain ⟨b, hb, rfl, hp⟩ := ht.exported hy
  refine ⟨a, b, ha, hb, rfl, rfl, ?_⟩
  rw [stepOutputVar_eq_iff]
  by_cases hij : i = j
  -- one step has one name, so only the outputs can differ
  · subst hij
    have hsame : s = t := Option.some.inj (hi.symm.trans hj)
    subst hsame
    have hab : a = b := Value.text.inj (ha.symm.trans hb)
    subst hab
    have hop : o ≠ p := fun h => hne (by rw [h])
    have hoverlap := not_overlaps_self a o p
    have hoverlap' := not_overlaps_self a p o
    rw [sanitize_eq_iff_of_isShellName ho hp]
    simp [hop, hoverlap, hoverlap']
  -- of two steps the stems differ, so one name must overlap the other
  · have hstems : sanitize a ≠ sanitize b := by
      intro hsame
      have hstem := Step.stem?_of_name hs.action_isSome ha
      have hstem' := Step.stem?_of_name ht.action_isSome hb
      rw [← hsame] at hstem'
      exact hij (distinctStems_of_isAccepted hjob i j s t _ hi hj hstem hstem')
    simp [hij, hstems]

/-! ## A job with a shared variable -/

/-- The step that exports the tag of an image it has built. -/
def buildStep : Step := (Action.oneOutputCall "build" "image_tag").step

/-- The step that builds an image and exports its tag. -/
def buildImageStep : Step := (Action.oneOutputCall "build-image" "tag").step

/-- A template of two steps, both of which export a variable of the same name. -/
def imageTemplate : JobTemplate where
  name := .text "image"
  steps := .fixed [buildStep, buildImageStep]
  executor := .text "local"

theorem isCompiled_build : buildStep.IsCompiled := by
  have hdefine : Action.define (.text "build") (.text "") ∅ (.list [.text "image_tag"]) (.list []) =
      .ok (Action.oneOutput "build" "image_tag") := rfl
  exact .mk hdefine (Action.compile_eq_ok_iff.mpr ⟨_, rfl⟩)

theorem isCompiled_buildImage : buildImageStep.IsCompiled := by
  have hdefine : Action.define (.text "build-image") (.text "") ∅ (.list [.text "tag"]) (.list []) =
      .ok (Action.oneOutput "build-image" "tag") := rfl
  exact .mk hdefine (Action.compile_eq_ok_iff.mpr ⟨_, rfl⟩)

/-- Both steps export `STEP_OUTPUT_build_image_tag`, and the template that has them is accepted. -/
theorem exported_image_tag :
    ∃ job, imageTemplate.compile ∅ = .ok job
      ∧ ∃ s t x y, job.steps[0]? = some s ∧ job.steps[1]? = some t ∧ s.IsCompiled ∧ t.IsCompiled
        ∧ s.exports.get? "image_tag" = some x ∧ t.exports.get? "tag" = some y ∧ x = y := by
  obtain ⟨job, hjob, hsteps⟩ : ∃ job, imageTemplate.compile ∅ = .ok job
      ∧ job.steps = [buildStep, buildImageStep] :=
    ⟨_, rfl, rfl⟩
  have hi : job.steps[0]? = some buildStep := by rw [hsteps]; rfl
  have hj : job.steps[1]? = some buildImageStep := by rw [hsteps]; rfl
  have hx : buildStep.exports.get? "image_tag" =
      some "STEP_OUTPUT_build_image_tag" := by decide
  have hy : buildImageStep.exports.get? "tag" =
      some "STEP_OUTPUT_build_image_tag" := by decide
  obtain ⟨a, b, ha, hb, -, -, hiff⟩ := exported_eq_iff (.compiled hjob) hi hj isCompiled_build
    isCompiled_buildImage hx hy (by decide)
  have hoverlap : Overlaps a "image_tag" b "tag" := by
    cases ha
    cases hb
    exact ⟨"image", by decide, by decide⟩
  exact ⟨job, hjob, _, _, _, _, hi, hj, isCompiled_build, isCompiled_buildImage, hx, hy,
    hiff.mpr (Or.inr ⟨by decide, Or.inl hoverlap⟩)⟩

end ShellFlow

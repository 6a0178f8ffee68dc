import Mathlib.Data.List.Forall2
import ShellFlow.Listing
import ShellFlow.Proofs.Success
import ShellFlow.Proofs.Text.Indentation

/-!
# What is listed of a job

The scripts of a job stand between a heading and an empty line. Each has a heading of its own, with
its position, the name of its step and the condition under which the step runs, and is listed without
the newlines at its end. A job is listed exactly if all its scripts are texts.

* **`scriptText_eq_ok_iff`** — a script without the newlines at its end.
* **`stepListing_eq_ok_iff`** — the steps from a position on, by induction on the steps.
* **`jobListing_eq_ok_iff`** — a job, from its heading to the empty line.
-/

namespace ShellFlow.Workflow

/-- A script as it is listed: newlines are left out at its end, and all of them. -/
structure IsListedScript (run : Value) (script : String) : Prop where
  trimmed : script.toList.getLast? ≠ some '\n'
  kept : ∃ n, run = .text (script ++ String.ofList (List.replicate n '\n'))

/-- The two texts of a step at position `i`, its heading and its script. The heading ends with the
condition of the step, if it has one. -/
inductive ListsStep (i : Nat) (step : Step) : List String → Prop
  | always {script : String} :
      step.condition.isTruthy = false → IsListedScript step.run script →
      ListsStep i step
        ["# ----- step " ++ toString i ++ ": " ++ step.name.display ++ " -----", script]
  | conditional {script : String} :
      step.condition.isTruthy = true → IsListedScript step.run script →
      ListsStep i step
        ["# ----- step " ++ toString i ++ ": " ++ step.name.display
          ++ " (if " ++ step.condition.display ++ ") -----", script]

/-- The texts of a job: a heading, those of its steps in order, and an empty one. -/
def ListsJob (name : String) (job : Job) (texts : List String) : Prop :=
  ∃ parts, List.Forall₂ (fun e part => ListsStep e.2 e.1 part) job.steps.zipIdx parts
    ∧ texts = ["# ===== job: " ++ name ++ " ====="] ++ parts.flatten ++ [""]

/-- The script of a step is listed exactly if it is a text, and then without the newlines at its
end. -/
theorem scriptText_eq_ok_iff {run : Value} {script : String} :
    scriptText run = .ok script ↔ IsListedScript run script := by
  constructor
  · intro h
    cases run with
    | text s =>
      obtain ⟨htrimmed, n, rfl⟩ := Text.stripNewlines_eq_iff.mp (Except.ok.inj h)
      exact ⟨htrimmed, n, rfl⟩
    | _ => cases h
  · rintro ⟨htrimmed, n, rfl⟩
    exact congrArg Except.ok (Text.stripNewlines_eq_iff.mpr ⟨htrimmed, n, rfl⟩)

/-- The heading of a step says whether it runs always or under a condition. -/
theorem listsStep_iff {i : Nat} {step : Step} {part : List String} :
    ListsStep i step part ↔ ∃ script, IsListedScript step.run script
      ∧ part = [stepHeading i step.name step.condition, script] := by
  constructor
  · rintro (⟨hcondition, hscript⟩ | ⟨hcondition, hscript⟩)
    · refine ⟨_, hscript, ?_⟩
      simp [stepHeading, hcondition]
    · refine ⟨_, hscript, ?_⟩
      simp [stepHeading, hcondition, String.append_assoc]
  · rintro ⟨script, hscript, rfl⟩
    cases hcondition : step.condition.isTruthy with
    | false => simpa [stepHeading, hcondition] using ListsStep.always hcondition hscript
    | true =>
      simpa [stepHeading, hcondition, String.append_assoc] using
        ListsStep.conditional hcondition hscript

/-- **The listing of some steps, step by step.** Each step has its own part, a heading and its
script, and the parts come in the order of the steps. Induction on the steps, from every
position. -/
theorem stepListing_eq_ok_iff {steps : List Step} {i : Nat} {texts : List String} :
    stepListing i steps = .ok texts ↔ ∃ parts,
      List.Forall₂ (fun e part => ListsStep e.2 e.1 part) (steps.zipIdx i) parts
        ∧ texts = parts.flatten := by
  induction steps generalizing i texts with
  | nil =>
    simp only [List.zipIdx_nil, List.forall₂_nil_left_iff, exists_eq_left, stepListing]
    exact ⟨fun h => (Except.ok.inj h).symm, fun h => congrArg Except.ok h.symm⟩
  | cons step rest ih =>
    rw [List.zipIdx_cons]
    simp only [List.forall₂_cons_left_iff]
    constructor
    · -- the heading never fails, so it is the script that decides
      intro h
      obtain ⟨script, hscript, h⟩ := Success.bind_eq_ok.mp h
      obtain ⟨later, hlater, h⟩ := Success.bind_eq_ok.mp h
      cases h
      obtain ⟨parts, hparts, rfl⟩ := ih.mp hlater
      have hstep : ListsStep i step [stepHeading i step.name step.condition, script] :=
        listsStep_iff.mpr ⟨script, scriptText_eq_ok_iff.mp hscript, rfl⟩
      exact ⟨_, ⟨_, parts, hstep, hparts, rfl⟩, rfl⟩
    · rintro ⟨_, ⟨part, parts, hstep, hparts, rfl⟩, rfl⟩
      obtain ⟨script, hscript, rfl⟩ := listsStep_iff.mp hstep
      refine Success.bind_eq_ok.mpr ⟨script, scriptText_eq_ok_iff.mpr hscript, ?_⟩
      exact Success.bind_eq_ok.mpr ⟨parts.flatten, ih.mpr ⟨parts, hparts, rfl⟩, rfl⟩

/-- What is listed of a job is its heading and its scripts, each under its own heading, whatever is
listed around it. -/
theorem jobListing_eq_ok_iff {name : String} {job : Job} {texts : List String} :
    jobListing name job = .ok texts ↔ ListsJob name job texts := by
  rw [jobListing, Success.bind_eq_ok, ListsJob]
  constructor
  · rintro ⟨steps, hsteps, h⟩
    obtain ⟨parts, hparts, rfl⟩ := stepListing_eq_ok_iff.mp hsteps
    cases h
    exact ⟨parts, hparts, rfl⟩
  · rintro ⟨parts, hparts, rfl⟩
    exact ⟨parts.flatten, stepListing_eq_ok_iff.mpr ⟨parts, hparts, rfl⟩, rfl⟩

end ShellFlow.Workflow

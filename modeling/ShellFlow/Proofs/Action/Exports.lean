import ShellFlow.Proofs.Action.Compilation
import ShellFlow.Proofs.Insertions

/-!
# Exports of a step

The outputs of a step are exported under variables made of the name of the step and the names of the
outputs, and the output names of a defined action are shell names.

* **`get?_exports`** — the exports as a function of the output.
* **`Compilation.get?_exported`** — the exports of a compiled step.
* **`isShellName_of_define`** — the output names of a defined action.
-/

namespace ShellFlow

namespace Action

/-- Under each declared output stands the variable of the step and the output, and nothing stands
there else. A repeated output makes no difference. -/
theorem get?_exports (step : String) (outputs : List String) (output : String) :
    (exports step outputs).get? output =
      if output ∈ outputs then some (stepOutputVar step output) else none :=
  OrderedMap.get?_ofList_map (stepOutputVar step) outputs output

/-- A step that exports anything has a text for its name, since the name becomes part of
variables. -/
theorem exportsFor_eq_ok {carry : CarryChannel} {step : Label} {outputs exportCode : List String}
    {exported : OrderedMap String String}
    (h : exportsFor carry step outputs = .ok (exportCode, exported)) :
    (outputs = [] ∧ exported = ∅) ∨ ∃ name, step = .text name ∧ exported = exports name outputs := by
  unfold exportsFor at h
  split at h
  · rename_i hempty
    cases h
    exact Or.inl ⟨List.isEmpty_iff.mp hempty, rfl⟩
  · obtain ⟨name, hname, h⟩ := Success.bind_eq_ok.mp h
    cases h
    exact Or.inr ⟨name, variablePart_eq_ok_iff.mp hname, rfl⟩

namespace Compilation

variable {action : Action} {invocation : Invocation} {carry : CarryChannel}

/-- A step exports the declared outputs and no others, under the variables of its name. -/
theorem get?_exported (c : Compilation action invocation carry) {name : String}
    (hname : c.step.name = .text name) (output : String) :
    c.step.exports.get? output =
      if output ∈ action.outputs then some (stepOutputVar name output) else none := by
  show c.exported.get? output = _
  rcases exportsFor_eq_ok c.exports_eq with ⟨houtputs, hexported⟩ | ⟨name', hname', hexported⟩
  -- a step without outputs exports nothing, whatever its label is
  · rw [houtputs, hexported, if_neg List.not_mem_nil]
    rfl
  · have hsame : name' = name := Value.text.inj (hname'.symm.trans hname)
    rw [hexported, get?_exports, hsame]

theorem exists_name (c : Compilation action invocation carry) {output var : String}
    (h : c.step.exports.get? output = some var) : ∃ name, c.step.name = .text name := by
  rcases exportsFor_eq_ok c.exports_eq with ⟨-, hexported⟩ | ⟨name, hname, -⟩
  · have hnone : c.step.exports.get? output = none := by
      show c.exported.get? output = none
      rw [hexported]
      rfl
    rw [hnone] at h
    cases h
  · exact ⟨name, hname⟩

end Compilation

/-! ## Output names -/

/-- What is checked by a definition passes the test for names of the shell, by induction on the
list. -/
theorem isShellName_of_checkNames {owner what : Label} {names : List Value} {texts : List String}
    (h : checkNames owner names what = .ok texts) : ∀ s ∈ texts, isShellName s = true := by
  unfold checkNames at h
  induction names generalizing texts with
  | nil =>
    cases h
    simp
  | cons v rest ih =>
    obtain ⟨s, more, hs, hmore, rfl⟩ := Success.mapM_cons_eq_ok.mp h
    refine List.forall_mem_cons.mpr ⟨?_, ih hmore⟩
    cases v with
    | text t =>
      by_cases ht : isShellName t = true
      · simp only [ht, if_true, Except.ok.injEq] at hs
        rwa [← hs]
      · simp [ht] at hs
    | null | bool _ | int _ | float _ | list _ | tuple _ | mapping _ | path _ | bytes _
    | object _ _ | struct _ _ _ | noDefault | reference _ => cases hs

theorem isShellName_of_define {name : Label} {run : Value} {inputs : Schema}
    {outputs packages : Value} {description : Label} {action : Action}
    (h : define name run inputs outputs packages description = .ok action) :
    ∀ output ∈ action.outputs, isShellName output = true := by
  unfold define at h
  split at h
  · cases h
  · split at h
    · cases h
    · obtain ⟨_, _, h⟩ := Success.bind_eq_ok.mp h
      obtain ⟨_, _, h⟩ := Success.bind_eq_ok.mp h
      obtain ⟨texts, htexts, h⟩ := Success.bind_eq_ok.mp h
      obtain ⟨_, _, h⟩ := Success.bind_eq_ok.mp h
      cases h
      exact isShellName_of_checkNames htexts

/-! ## An action with one output -/

/-- An action that does nothing, with one output. -/
def oneOutput (name output : String) : Action where
  name := .text name
  run := .text ""
  inputs := ∅
  outputs := [output]
  packages := []
  description := .text ""

/-- The step of a call of such an action. -/
def oneOutputCall (name output : String) :
    Compilation (oneOutput name output) ∅ .standard where
  resolved := ∅
  exportCode := exportLines .standard name [output]
  exported := exports name [output]
  setupLines := []
  run := ""
  resolve_eq := rfl
  exports_eq := rfl
  setup_eq := rfl
  fragments_eq := rfl
  run_eq := rfl

end Action

end ShellFlow

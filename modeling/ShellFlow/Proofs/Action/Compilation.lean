import ShellFlow.Action
import ShellFlow.Proofs.Success

/-!
# Compilations of actions

Making the step of a call is a row of computations, each of which may fail. `Compilation` holds their
results with the proofs that they succeeded, and `compile_eq_ok_iff` says that a call is accepted
exactly if there is one. Theorems about steps of actions start from it and do not unfold `compile`.
-/

namespace ShellFlow.Action

/-- The values that a call gives to inputs. The alias is for the step. -/
def given (invocation : Invocation) : Invocation :=
  invocation.filter fun key _ => key != aliasKey

/-- What an accepted call of an action has computed. -/
structure Compilation (action : Action) (invocation : Invocation) (carry : CarryChannel) where
  /-- The values of the declared inputs. -/
  resolved : Invocation
  /-- The lines that export the outputs. -/
  exportCode : List String
  /-- The variables of the outputs. -/
  exported : OrderedMap String String
  /-- The lines that assign the inputs. -/
  setupLines : List String
  /-- The script of the action. -/
  run : String
  resolve_eq : Invocation.resolve action.name action.inputs
    (invocation.filter fun key _ => key != aliasKey) "action" = .ok resolved
  exports_eq : exportsFor carry (action.stepName invocation) action.outputs =
    .ok (exportCode, exported)
  setup_eq : setup resolved.entries = .ok setupLines
  fragments_eq : action.inputs.values.forM InputType.requireFragment = .ok ()
  run_eq : action.run.joinedText
    (preamble (action.stepName invocation) action.description setupLines
      (checks action.inputs)).length = .ok run

namespace Compilation

variable {action : Action} {invocation : Invocation} {carry : CarryChannel}

def front (c : Compilation action invocation carry) : List String :=
  preamble (action.stepName invocation) action.description c.setupLines (checks action.inputs)

def info (c : Compilation action invocation carry) : ActionInfo where
  name := action.stepName invocation
  actionName := action.name
  inputs := action.inputs
  outputs := action.outputs
  description := action.description
  inputValues := c.resolved

def step (c : Compilation action invocation carry) : Step where
  name := action.stepName invocation
  run := .text (script c.front c.run c.exportCode)
  exports := c.exported
  packages := action.packages
  condition := .null
  env := ∅
  action := some c.info

/-- The values are those of the declared inputs, in the order of the declaration. -/
theorem keys_resolved (c : Compilation action invocation carry) :
    c.resolved.keys = action.inputs.keys :=
  Invocation.resolve_ok c.resolve_eq

end Compilation

/-- A call is accepted exactly if every computation in it succeeds. -/
theorem compile_eq_ok_iff {action : Action} {invocation : Invocation} {carry : CarryChannel}
    {step : Step} :
    action.compile invocation carry = .ok step ↔
      ∃ c : Compilation action invocation carry, step = c.step := by
  unfold compile
  constructor
  · intro h
    obtain ⟨resolved, hresolved, h⟩ := Success.bind_eq_ok.mp h
    obtain ⟨⟨exportCode, exported⟩, hexports, h⟩ := Success.bind_eq_ok.mp h
    obtain ⟨setupLines, hsetup, h⟩ := Success.bind_eq_ok.mp h
    obtain ⟨_, hfragments, h⟩ := Success.bind_eq_ok.mp h
    obtain ⟨run, hrun, h⟩ := Success.bind_eq_ok.mp h
    injection h with h
    exact ⟨⟨resolved, exportCode, exported, setupLines, run, hresolved, hexports, hsetup,
      hfragments, hrun⟩, h.symm⟩
  · rintro ⟨c, rfl⟩
    refine Success.bind_eq_ok.mpr ⟨_, c.resolve_eq, ?_⟩
    refine Success.bind_eq_ok.mpr ⟨_, c.exports_eq, ?_⟩
    refine Success.bind_eq_ok.mpr ⟨_, c.setup_eq, ?_⟩
    refine Success.bind_eq_ok.mpr ⟨_, c.fragments_eq, ?_⟩
    exact Success.bind_eq_ok.mpr ⟨_, c.run_eq, rfl⟩

end ShellFlow.Action

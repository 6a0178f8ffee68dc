import ShellFlow.InputType.Make
import ShellFlow.OrderedMap

/-!
# Steps

A step is one script of a job. A step that was made from an action remembers what the action knew,
for the checks and extensions that come later. Fields that nobody reads before the engine record is
built hold any value; whether they hold what they must is decided there.
-/

namespace ShellFlow

/-- The declared inputs of an action or a job, in the order of their declaration. -/
abbrev Schema := OrderedMap String InputType

/-- What an action knew about a step when it made it. -/
structure ActionInfo where
  /-- The name of the step. -/
  name : Label
  actionName : Label
  inputs : Schema
  outputs : List String
  description : Label
  /-- The values of the declared inputs. -/
  inputValues : OrderedMap String Value

/-- A step of a job. -/
structure Step where
  name : Label
  /-- The script. -/
  run : Value
  /-- The variable of each output. -/
  exports : OrderedMap String String
  packages : List Value
  /-- The condition under which the engine runs the step, absent if it always does. -/
  condition : Value
  env : OrderedMap String Value
  /-- What the action knew that made the step, if one did. -/
  action : Option ActionInfo

namespace ActionInfo

/-- Equality of two descriptions of an action call. -/
def eqv (a b : ActionInfo) : Bool :=
  a.name.same b.name && a.actionName.same b.actionName &&
    a.inputs.sameBy InputType.eqv b.inputs && a.outputs == b.outputs &&
    a.description.same b.description && a.inputValues.sameBy Value.same b.inputValues

end ActionInfo

namespace Step

/-- A step that only runs a script. -/
def plain (name : Label) (run : Value) : Step where
  name := name
  run := run
  exports := ∅
  packages := []
  condition := .null
  env := ∅
  action := none

/-- A shell command as a step, under a condition and with environment variables of its own. -/
def shell (name : Label) (command condition : Value) (env : OrderedMap String Value) : Step :=
  { plain name command with condition := condition, env := env }

/-- Equality of two optional things by a given equality. -/
def sameOption {α : Type} (eqv : α → α → Bool) : Option α → Option α → Bool
  | none, none => true
  | some a, some b => eqv a b
  | _, _ => false

def eqv (a b : Step) : Bool :=
  a.name.same b.name && a.run.same b.run && a.exports.sameBy (· == ·) b.exports &&
    Value.sameItems a.packages b.packages && a.condition.same b.condition &&
    a.env.sameBy Value.same b.env && sameOption ActionInfo.eqv a.action b.action

end Step

/-! ## Lists with lists in them -/

/-- What may stand in a list of steps: a step, or a list of steps in its place. -/
inductive Entry (α : Type) where
  | single (item : α)
  | several (items : List α)

namespace Entry

variable {α : Type}

/-- The items of some entries, from left to right. -/
def flatten : List (Entry α) → List α
  | [] => []
  | .single item :: rest => item :: flatten rest
  | .several items :: rest => items ++ flatten rest

end Entry

end ShellFlow

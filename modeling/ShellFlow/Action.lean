import ShellFlow.CarryChannel
import ShellFlow.Invocation
import ShellFlow.Label
import ShellFlow.Shell.Word

/-!
# Actions

An action is a script with declared inputs and outputs. A call gives values to the inputs and makes
a step of it, whose script has five sections: a header of comments, the assignments of the inputs,
their checks, the script of the action, and the export of the outputs that it has set.

Outputs are exported under a variable named for the step and the output, and are kept for the later
steps through the carry channel while that is active.
-/

namespace ShellFlow

/-- A script with declared inputs and outputs. -/
structure Action where
  name : Label
  /-- The script of the action, which has to be a text when a step is made of it. -/
  run : Value
  inputs : Schema
  outputs : List String
  packages : List Value
  description : Label

namespace Action

/-- The input name that stands for the alias of the step in a call. -/
def aliasKey : String := "as"

/-! ## Definition -/

/-- An action, if it has a name and all names in it can be part of shell variables. The outputs are
a list or what counts as false, the packages a list. -/
def define (name : Label) (run : Value) (inputs : Schema := ∅) (outputs : Value := .null)
    (packages : Value := .list []) (description : Label := .text "") : Except Failure Action := do
  if !name.isTruthy then .error (.invalidArgument "define_action() needs a name")
  else if inputs.contains aliasKey then
    .error (.invalidArgument
      ("action " ++ name.literal ++ ": '" ++ aliasKey ++ "' is reserved for the step alias"))
  else
    let outputs ← outputs.itemsOrNone
    let _ ← checkNames name (inputs.keys.map .text) (.text "input")
    let outputs ← checkNames name outputs (.text "output")
    let packages ← packages.items
    .ok { name := name, run := run, inputs := inputs, outputs := outputs, packages := packages,
          description := description }

/-! ## Sections of the script -/

def inputVar (input : String) : String := "INPUT_" ++ input

def setupInput (input : String) (value : Value) : Except Failure (List String) := do
  let line ← Shell.assignment (inputVar input) value
  .ok (if value.isReference then ["# shellcheck disable=SC2154", line] else [line])

/-- The lines that assign the inputs. -/
def setup : List (String × Value) → Except Failure (List String)
  | [] => .ok []
  | (input, value) :: rest => do
    let lines ← setupInput input value
    .ok (lines ++ (← setup rest))

/-- The lines that check one input, none if its type has nothing to check. -/
def checkInput (input : String) (t : InputType) : List String :=
  if t.runtimeCheck.isEmpty then []
  else
    ["VALUE=\"$" ++ inputVar input ++ "\"",
     "NAME=\"" ++ inputVar input ++ "\"",
     Text.stripEnd t.runtimeCheck]

def checks (inputs : Schema) : List String := inputs.entries.flatMap fun e => checkInput e.1 e.2

/-- The variable that an action's script sets for an output. -/
def outputVar (output : String) : String := "OUTPUT_" ++ output

def exportOutput (carry : CarryChannel) (step output : String) : List String :=
  let var := stepOutputVar step output
  let value := "\"$" ++ outputVar output ++ "\""
  ["if [ -n \"$\x7b" ++ outputVar output ++ ":-\x7d\" ]; then",
   "  export " ++ var ++ "=" ++ value,
   "  if " ++ carry.guard ++ "; then",
   "    " ++ carry.appendExport var value,
   "  fi",
   "fi"]

def exportLines (carry : CarryChannel) (step : String) (outputs : List String) : List String :=
  outputs.flatMap (exportOutput carry step)

/-- The variables under which the outputs of a step are exported. -/
def exports (step : String) (outputs : List String) : OrderedMap String String :=
  OrderedMap.ofList (outputs.map fun output => (output, stepOutputVar step output))

/-- The lines that export the outputs of a step under its label, and the variables of the outputs. A
label that is no text can name a step without outputs only. -/
def exportsFor (carry : CarryChannel) (step : Label) (outputs : List String) :
    Except Failure (List String × OrderedMap String String) :=
  if outputs.isEmpty then .ok ([], ∅)
  else do
    let step ← step.variablePart
    .ok (exportLines carry step outputs, exports step outputs)

/-- The comments at the top of a script. -/
def header (step description : Label) : List String :=
  ("# === Action: " ++ step.display ++ " ===") ::
    (if description.isTruthy then ["# " ++ description.display] else [])

/-- The lines in front of the script of the action. -/
def preamble (step description : Label) (setup checks : List String) : List String :=
  header step description
    ++ ["", "# Setup inputs", Text.joinLines setup,
        "", "# Validate inputs", Text.joinLines checks,
        "", "# Run action"]

/-- The script of a step, from the lines of its sections. -/
def script (preamble : List String) (run : String) (exports : List String) : String :=
  Text.joinLines (preamble ++ [run, "", "# Export outputs", Text.joinLines exports, ""])

/-! ## Calls -/

/-- The name of the step of a call: its alias, or else the name of the action. -/
def stepName (action : Action) (invocation : Invocation) : Label :=
  match invocation.get? aliasKey with
  | some label => if label.isTruthy then label else action.name
  | none => action.name

/-- Makes the step of a call. -/
def compile (action : Action) (invocation : Invocation)
    (carry : CarryChannel := CarryChannel.standard) : Except Failure Step := do
  -- the alias names the step and is no input
  let provided := invocation.filter fun key _ => key != aliasKey
  let resolved ← Invocation.resolve action.name action.inputs provided "action"
  let step := action.stepName invocation
  let (exportCode, exported) ← exportsFor carry step action.outputs
  let setupLines ← setup resolved.entries
  action.inputs.values.forM InputType.requireFragment
  let front := preamble step action.description setupLines (checks action.inputs)
  let run ← action.run.joinedText front.length
  .ok
    { name := step
      run := .text (script front run exportCode)
      exports := exported
      packages := action.packages
      condition := .null
      env := ∅
      action := some
        { name := step, actionName := action.name, inputs := action.inputs,
          outputs := action.outputs, description := action.description, inputValues := resolved } }

/-- The name by which a call by keyword gives an input: `as_` stands for `as`. -/
def keywordName (key : String) : String := if key = "as_" then aliasKey else key

/-- Calls an action with a mapping of values, if there is one, and with keywords. -/
def call (action : Action) (values : Option Invocation) (keywords : Invocation) :
    Except Failure Step := do
  let entries ←
    Invocation.entriesOfCall "ActionSpec.__call__()" keywordName values keywords
  action.compile (← Invocation.ofEntries action.name action.inputs [aliasKey] "action" entries)

/-- An action without inputs and outputs, called at once. -/
def simple (name run description : String) : Except Failure Step := do
  (← define (.text name) (.text run) ∅ .null (.list []) (.text description)).call none ∅

def eqv (a b : Action) : Bool :=
  a.name.same b.name && a.run.same b.run && a.inputs.sameBy InputType.eqv b.inputs &&
    a.outputs == b.outputs && Value.sameItems a.packages b.packages &&
    a.description.same b.description

end Action

end ShellFlow

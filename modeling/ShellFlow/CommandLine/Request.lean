import ShellFlow.CommandLine.Arguments
import ShellFlow.WorkflowFile

/-!
# Requests

What a command line asks for: help, or one of the commands with its options. An option that takes
one value and is given several times has its last one, and an empty path counts as none.

## Main statements

* `Format.ofText_text`: the formats are read by their names.
-/

namespace ShellFlow

/-- The form in which a workflow is emitted. -/
inductive Format where
  /-- The engine records. -/
  | json
  /-- The scripts. -/
  | shell
  deriving DecidableEq, Repr

namespace Format

def text : Format → String
  | .json => "json"
  | .shell => "sh"

def all : List Format := [.json, .shell]

def ofText? (name : String) : Option Format := all.find? fun format => decide (format.text = name)

theorem ofText_text (format : Format) : ofText? format.text = some format := by
  cases format <;> decide

end Format

inductive Command where
  | compile (workflow : Option String) (format : Format) (jobs : List String)
    (output : Option String)
  | validate (workflow : Option String)
  | display (workflow : Option String)
  deriving DecidableEq, Repr

/-- Why a command line is not carried out. -/
inductive Refusal where
  /-- It cannot be understood. -/
  | usage (e : UsageError)
  /-- A value in it cannot even be looked at. -/
  | failure (failure : Failure)

/-- What a command line asks for. -/
inductive Request where
  | help
  | run (debug : Bool) (command : Command)
  deriving DecidableEq, Repr

namespace Request

/-- The option that every command and the program itself know. -/
def helpOption : OptionSpec := { name := "--help", takesValue := false }

/-- The options in front of the command. -/
def generalOptions : List OptionSpec := [{ name := "--debug", takesValue := false }, helpOption]

/-- The options of a command that only reads a workflow. -/
def readOptions : List OptionSpec := [{ name := "--workflow" }, helpOption]

/-- The options of the command that emits a workflow. -/
def compileOptions : List OptionSpec :=
  [{ name := "--workflow" }, { name := "--format" }, { name := "--job" },
   { name := "--output", letter := some 'o' }, helpOption]

/-- The format that was asked for, JSON if none was. -/
def formatOf (arguments : Arguments) : Except Refusal Format :=
  match arguments.last? "--format" with
  | none => .ok .json
  | some name =>
    match Format.ofText? name with
    | some format => .ok format
    | none => .error (.usage (.invalidChoice "--format" name (Format.all.map Format.text)))

/-- The file that was asked for, if one was. -/
def outputOf (arguments : Arguments) : Except Refusal (Option String) :=
  match arguments.nonempty? "--output" with
  | none => .ok none
  | some path =>
    if (Path.ofText path).hasNul then .error (.failure WorkflowFile.nulFailure) else .ok (some path)

/-- True if one option comes before another for the first time. -/
def comesFirst (arguments : Arguments) (name other : String) : Bool :=
  match arguments.options.find? fun option => option.1 == name || option.1 == other with
  | some option => option.1 == name
  | none => false

/-- The format and the file of a command, the one that was given first being looked at first. -/
def formatAndOutput (arguments : Arguments) : Except Refusal (Format × Option String) := do
  if comesFirst arguments "--output" "--format" then
    let output ← outputOf arguments
    .ok (← formatOf arguments, output)
  else
    let format ← formatOf arguments
    .ok (format, ← outputOf arguments)

/-- A result, or a refusal because the command line cannot be understood. -/
def understood {α : Type} (r : Except UsageError α) : Except Refusal α := r.mapError .usage

/-- Reads the words of a command, all of which have to belong to options. -/
def readCommand (specs : List OptionSpec) (words : List String)
    (command : Arguments → Except Refusal Command) : Except Refusal (Option Command) := do
  let arguments ← understood (Arguments.scan specs true words)
  -- help is given before the values of options are looked at
  if arguments.has helpOption.name then .ok none
  else
    let command ← command arguments
    match arguments.words with
    | [] => .ok (some command)
    | word :: _ => .error (.usage (.unexpectedArgument word))

def commandNames : List String := ["compile", "validate", "show"]

def commandOf (name : String) (words : List String) : Except Refusal (Option Command) :=
  match name with
  | "compile" =>
    readCommand compileOptions words fun arguments => do
      let (format, output) ← formatAndOutput arguments
      .ok (.compile (arguments.nonempty? "--workflow") format (arguments.values "--job") output)
  | "validate" =>
    readCommand readOptions words fun arguments =>
      .ok (.validate (arguments.nonempty? "--workflow"))
  | "show" =>
    readCommand readOptions words fun arguments =>
      .ok (.display (arguments.nonempty? "--workflow"))
  | _ => .error (.usage (.unknownCommand name))

/-- Reads a command line. -/
def ofWords (words : List String) : Except Refusal Request := do
  let general ← understood (Arguments.scan generalOptions false words)
  if general.has helpOption.name then .ok .help
  else
    match general.words with
    | [] => .error (.usage .missingCommand)
    | name :: rest =>
      match ← commandOf name rest with
      | none => .ok .help
      | some command => .ok (.run (general.has "--debug") command)

/-- Whether debug text is asked for, if the words name a command; what follows its name need not
make sense. -/
def debugOf? (words : List String) : Option Bool :=
  match Arguments.scan generalOptions false words with
  | .error _ => none
  | .ok general =>
    if general.has helpOption.name then none
    else (general.words.head?.filter commandNames.contains).map fun _ => general.has "--debug"

end Request

end ShellFlow

import ShellFlow.Text.Case
import ShellFlow.Text.Excerpt
import ShellFlow.Text.Lines
import ShellFlow.Value.Display
import ShellFlow.Value.Order

/-!
# Failures

Everything that can go wrong between a definition and a workflow, one constructor for each cause.
The wording is in `Failure.message`; a failed validation carries its issues and lists them. What a
failure is about is named by labels, which need not be texts; a failure whose text cannot be put
together for that reason has a failure of its own, `Failure.unreadable?`.
-/

namespace ShellFlow

/-- A step on the way to a field of an engine record. -/
inductive RecordPlace where
  | field (name : String)
  | index (i : Int)
  deriving DecidableEq, Repr

/-- What is wrong with a field of an engine record. -/
inductive RecordProblem where
  /-- Something else where a text is expected. -/
  | notText
  /-- A value of a kind that is never read as a truth value. -/
  | notBoolean
  /-- A value of a kind that may be read as a truth value, but not this one. -/
  | unreadableBoolean
  deriving DecidableEq, Repr

/-- A field of an engine record that does not hold what it must, and what it holds. -/
structure RecordIssue where
  place : List RecordPlace
  problem : RecordProblem
  value : Value

/-- A step on the way to a field; one with a dot is set off, because dots stand between the
steps. -/
def RecordPlace.text : RecordPlace → String
  | .field name => if name.toList.contains '.' then "`" ++ name ++ "`" else name
  | .index i => toString i

def RecordProblem.code : RecordProblem → String
  | .notText => "string_type"
  | .notBoolean => "bool_type"
  | .unreadableBoolean => "bool_parsing"

def RecordProblem.text : RecordProblem → String
  | .notText => "Input should be a valid string"
  | .notBoolean => "Input should be a valid boolean"
  | .unreadableBoolean => "Input should be a valid boolean, unable to interpret input"

/-- The page on a problem. The last line of each issue in the message of a refused engine record
(`RecordIssue.lines`) names it, as in "For further information visit" with the address. -/
def RecordProblem.page (problem : RecordProblem) : String :=
  "https://errors.pydantic.dev/2.14/v/" ++ problem.code

/-- The number of bytes of a value that are shown. -/
def RecordIssue.shownBytes : Nat := 50

/-- The lines of an issue: its place, what is wrong, and where that is explained. -/
def RecordIssue.lines (issue : RecordIssue) : List String :=
  [".".intercalate (issue.place.map RecordPlace.text),
   "  " ++ issue.problem.text ++ " [type=" ++ issue.problem.code ++ ", input_value="
     ++ Text.excerpt shownBytes issue.value.literal ++ ", input_type=" ++ issue.value.kindName
     ++ "]",
   "    For further information visit " ++ issue.problem.page]

/-- Why a path cannot be looked up or written to. -/
inductive AccessProblem where
  /-- A directory on the way does not exist. -/
  | missing
  /-- Something on the way is a file. -/
  | notDirectory
  /-- The path leads to a directory. -/
  | directory
  /-- The path, or a name in it, is longer than a file system takes. -/
  | nameTooLong
  deriving DecidableEq, Repr

/-- A cause for which no step, job or workflow comes about. -/
inductive Failure where
  /-- An input without a default was not given. -/
  | missingRequiredInput (owner input kind : Label) (stepIndex : Value)
  /-- An input was given that is not declared. -/
  | unknownInput (owner input : Label) (known : List Label) (kind : Label)
  /-- An input or output name cannot be part of a shell variable name. -/
  | invalidName (owner name what : Label)
  /-- Neither the job template nor the call names an executor. -/
  | missingExecutor (job : Label)
  /-- A value is no reference where one is expected. -/
  | unknownReferenceKind (value : Value)
  /-- A value has no shell text. -/
  | unsupportedValueKind (value : Value)
  /-- An input value does not have the declared type. -/
  | typeMismatch (job : Label) (stepIndex : Value) (action input expected : Label)
  /-- A reference names a step that the job does not have. -/
  | unknownStepReference (job step target input : Label) (stepIndex : Value)
  /-- Two or more steps of a job would write the same variables. -/
  | generatedNameCollision (job step stem : Label) (indices : List Value)
  /-- The issues of a job. -/
  | validation (title job : Label) (issues : List Failure)
  /-- Artifact names that more than one job produces. -/
  | duplicateArtifact (names : Value)
  /-- An extension broke its contract. -/
  | badExtension (extension message : Label)
  /-- An input type makes no sense. -/
  | typeDefinition (message : String)
  /-- A failure to compile that has no cause of its own. -/
  | compilation (message : String)
  /-- A definition was given an argument that it refuses. -/
  | invalidArgument (message : String)
  /-- There is no workflow file at a place. -/
  | missingWorkflowFile (place : String)
  /-- A path cannot be looked up or written to. -/
  | inaccessible (path : String) (problem : AccessProblem)
  /-- A path starts in the home directory of a user who has none. -/
  | unknownHome
  /-- A directory holds no program to run. -/
  | noMainProgram (place : String)
  /-- A mapping has no such key. -/
  | missingKey (key : String)
  /-- A value is of a kind with which the operation cannot work. -/
  | unsuitable (message : String)
  /-- A value is of a kind that has no such operation. -/
  | missingOperation (kind operation : String)
  /-- An error of a function or a file that the user wrote: its title and its text. -/
  | raised (name text : String)
  /-- Fields of an engine record that do not hold what they must. -/
  | invalidRecord (record : String) (issues : List RecordIssue)
  /-- An engine record holds something that has no JSON text. -/
  | unwritableRecord (message : String)
  deriving Inhabited

namespace Failure

/-- The title under which a failure is reported. -/
def title : Failure → String
  | .missingRequiredInput .. => "MissingRequiredInput"
  | .unknownInput .. => "UnknownInput"
  | .invalidName .. => "InvalidName"
  | .missingExecutor .. => "MissingExecutor"
  | .unknownReferenceKind .. => "UnknownReferenceKind"
  | .unsupportedValueKind .. => "UnsupportedValueKind"
  | .typeMismatch .. => "TypeMismatch"
  | .unknownStepReference .. => "UnknownStepReference"
  | .generatedNameCollision .. => "GeneratedNameCollision"
  | .validation .. => "ValidationError"
  | .duplicateArtifact .. => "DuplicateArtifact"
  | .badExtension .. => "ExtensionError"
  | .typeDefinition .. => "TypeDefinitionError"
  | .compilation .. => "CompileError"
  | .invalidArgument .. => "InvalidArgument"
  | .missingWorkflowFile .. => "MissingWorkflowFile"
  | .inaccessible .. => "InaccessiblePath"
  | .unknownHome => "UnknownHome"
  | .noMainProgram .. => "NoMainProgram"
  | .missingKey .. => "MissingKey"
  | .unsuitable .. => "UnsuitableValue"
  | .missingOperation .. => "MissingOperation"
  | .raised name _ => name
  | .invalidRecord .. => "InvalidRecord"
  | .unwritableRecord .. => "UnwritableRecord"

/-- True of the failures that belong to compiling a workflow, as opposed to those of the code around
it. -/
def isCompileError : Failure → Bool
  | .invalidArgument .. | .missingWorkflowFile .. | .inaccessible .. | .unknownHome
  | .noMainProgram .. | .missingKey .. | .unsuitable .. | .missingOperation .. | .raised ..
  | .invalidRecord .. | .unwritableRecord .. => false
  | _ => true

/-- What stands before an issue in a list of issues: the step it concerns, if it knows one, and the
action if it knows that too. -/
def stepLabel : Failure → String
  | .typeMismatch _ i action _ _ =>
    if i.isNull then ""
    else if action.isTruthy then "step " ++ i.display ++ " (" ++ action.display ++ "): "
    else "step " ++ i.display ++ ": "
  | .missingRequiredInput _ _ _ i | .unknownStepReference _ _ _ _ i =>
    if i.isNull then "" else "step " ++ i.display ++ ": "
  | _ => ""

/-- The names in code point order. -/
def sortNames (names : List String) : List String := names.mergeSort fun a b => decide (a ≤ b)

/-- Labels in order, as far as they have one: texts in code point order. -/
def sortLabels (labels : List Label) : List Label :=
  match labels.mapM Value.text? with
  | some texts => (sortNames texts).map .text
  | none => (Value.sort labels).toOption.getD labels

/-- The kind of what has inputs, at the beginning of a sentence. -/
def kindText : Label → String
  | .text s => Text.capitalize s
  | .bytes s => (Value.bytes (Text.capitalize s)).display
  | v => v.display

mutual

def message : Failure → String
  | .missingRequiredInput owner input kind _ =>
    kindText kind ++ " '" ++ owner.display ++ "': missing required input '" ++ input.display ++ "'"
  | .unknownInput owner input known kind =>
    kindText kind ++ " '" ++ owner.display ++ "': unknown input '" ++ input.display
      ++ "'. Declared inputs: " ++ (Value.list (sortLabels known)).literal
  | .invalidName owner name what =>
    "'" ++ owner.display ++ "': " ++ what.display ++ " name '" ++ name.display
      ++ "' is not a valid shell identifier (letters, digits and '_', not starting with a digit)"
  | .missingExecutor job => "Job '" ++ job.display ++ "': executor must be provided"
  | .unknownReferenceKind value => "Unknown reference type: " ++ value.kindName
  | .unsupportedValueKind value => "Cannot convert value to shell: " ++ value.kindName
  | .typeMismatch _ _ _ input expected =>
    "Input '" ++ input.display ++ "' failed type validation (expected " ++ expected.display ++ ")"
  | .unknownStepReference _ step target _ _ =>
    "Step '" ++ step.display ++ "' references unknown step '" ++ target.display ++ "'"
  | .generatedNameCollision job step stem indices =>
    "Job '" ++ job.display ++ "': steps " ++ ", ".intercalate (indices.map Value.display)
      ++ " all compile to step name '" ++ step.display ++ "' and would share " ++ stem.display
      ++ "_*; give each invocation a distinct 'as'"
  | .validation title job issues =>
    Text.joinLines
      ((title.display ++ " in job '" ++ job.display ++ "':") :: issueLines issues)
  | .duplicateArtifact names =>
    "Duplicate artifact names found: " ++ names.display
      ++ ". Each artifact name must be unique across all jobs."
  | .badExtension extension text => "Extension '" ++ extension.display ++ "': " ++ text.display
  | .typeDefinition text => text
  | .compilation text => text
  | .invalidArgument text => text
  | .missingWorkflowFile place => "Workflow file not found: " ++ place
  | .inaccessible path .missing => "[Errno 2] No such file or directory: " ++ Text.quoted path
  | .inaccessible path .notDirectory => "[Errno 20] Not a directory: " ++ Text.quoted path
  | .inaccessible path .directory => "[Errno 21] Is a directory: " ++ Text.quoted path
  | .inaccessible path .nameTooLong => "[Errno 36] File name too long: " ++ Text.quoted path
  | .unknownHome => "Could not determine home directory."
  | .noMainProgram place => "can't find '__main__' module in " ++ Text.quoted place
  | .missingKey key => Text.quoted key
  | .unsuitable text => text
  | .missingOperation kind operation =>
    "'" ++ kind ++ "' object has no attribute " ++ Text.quoted operation
  | .raised _ text => text
  | .unwritableRecord text => text
  | .invalidRecord record issues =>
    let noun := if issues.length = 1 then "error" else "errors"
    Text.joinLines
      ((toString issues.length ++ " validation " ++ noun ++ " for " ++ record)
        :: issues.flatMap RecordIssue.lines)
termination_by structural failure => failure

def issueLines : List Failure → List String
  | [] => []
  | issue :: rest => ("  - " ++ stepLabel issue ++ message issue) :: issueLines rest
termination_by structural issues => issues

end

/-! ## Failures without a text -/

/-- Why a kind cannot begin a sentence. -/
def kindProblem? : Label → Option Failure
  | .text _ | .bytes _ => none
  | v => some (.missingOperation v.kindName "capitalize")

/-- Why labels cannot be listed in order. -/
def orderProblem? (labels : List Label) : Option Failure :=
  match Value.sort labels with
  | .ok _ => none
  | .error e => some (.unsuitable e.message)

mutual

/-- Why the text of a failure cannot be put together. -/
def unreadable? : Failure → Option Failure
  | .missingRequiredInput _ _ kind _ => kindProblem? kind
  | .unknownInput _ _ known kind => (kindProblem? kind).or (orderProblem? known)
  | .validation _ _ issues => unreadableIssue? issues
  | _ => none
termination_by structural failure => failure

/-- The same for the first of some issues of which it is so. -/
def unreadableIssue? : List Failure → Option Failure
  | [] => none
  | issue :: rest => (unreadable? issue).or (unreadableIssue? rest)
termination_by structural issues => issues

end

end Failure

end ShellFlow

import ShellFlow.Action

/-!
# Ready-made steps and actions

A step that stops when an environment variable is missing, an action that reads the fields of a JSON
file into variables, and a step that runs an existing executable.
-/

namespace ShellFlow.ReadyMade

/-! ## Required variables -/

/-- The lines that check one variable. -/
def requireVar (var : String) : List String :=
  ["if [ -z \"$\x7b" ++ var ++ ":-\x7d\" ]; then",
   "  echo \"ERROR: Required env var not set: " ++ var ++ "\" >&2",
   "  exit 1",
   "fi",
   "echo \"✓ " ++ var ++ " is set\""]

/-- A step that stops when one of the variables is unset or empty. -/
def requireEnv (vars : List String) : Except Failure Step :=
  if vars.isEmpty then
    .error (.invalidArgument "require_env() needs at least one variable name")
  else
    let script := Text.joinLines (vars.flatMap requireVar ++ [""])
    .ok (Step.plain (.text "require-env") (.text script))

/-! ## Fields of a JSON file -/

/-- The pattern that the text of a field must match, and what it is called, if its
type is checked. -/
def fieldPattern : TypeKind → Option (String × String)
  | .int => some ("^-?[0-9]+$", "an integer")
  | .bool => some ("^(true|false)$", "a boolean")
  | _ => none

/-- The lines that stop when the text of a field does not match. -/
def checkField (field : String) (kind : TypeKind) : List String :=
  match fieldPattern kind with
  | none => []
  | some (pattern, what) =>
    ["if [ -n \"$_value\" ] && ! [[ \"$_value\" =~ " ++ pattern ++ " ]]; then",
     "  echo \"Error: " ++ field ++ " must be " ++ what ++ ", got: $_value\" >&2",
     "  exit 1",
     "fi"]

/-- The lines that read, check and export one field. -/
def loadField (carry : CarryChannel) (field : String) (t : InputType) : List String :=
  ("_value=$(jq -r " ++ Shell.quote ("." ++ field ++ " // empty") ++ " \"$_file\")")
    :: checkField field t.kind
    ++ ["export " ++ field ++ "=\"$_value\"",
        "echo \"  " ++ field ++ "=$_value\"",
        "if " ++ carry.guard ++ "; then",
        "  " ++ carry.appendExport field "\"$_value\"",
        "fi"]

/-- The script that reads the fields of the file in its input. -/
def loadScript (carry : CarryChannel) (fields : Schema) : String :=
  Text.joinLines
    (["_file=\"$INPUT_file\"",
      "if [ ! -f \"$_file\" ]; then",
      "  echo \"Error: Output file not found: $_file\" >&2",
      "  exit 1",
      "fi",
      "echo \"Loading outputs from $_file\"",
      "if ! jq empty \"$_file\" 2>/dev/null; then",
      "  echo \"Error: Invalid JSON in $_file\" >&2",
      "  exit 1",
      "fi"]
      ++ fields.entries.flatMap (fun e => loadField carry e.1 e.2)
      ++ ["echo \"Outputs loaded successfully\"", ""])

/-- Refuses what has no kind by which its check could be looked up. -/
def checkKind (t : InputType) : Except Failure Unit := do
  t.require "kind"
  match t.strayPart? "kind" with
  | some v => v.checkFixed
  | none => .ok ()

/-- An action that reads fields from a JSON file and exports each of them. -/
def loadOutputs (file : String) (fields : Schema) (name : String := "load-outputs")
    (carry : CarryChannel := CarryChannel.standard) : Except Failure Action := do
  let _ ← checkNames (.text name) (fields.keys.map .text) (.text "field")
  fields.values.forM checkKind
  let fileInput ← InputType.string.withDefault (.text file)
  Action.define (.text name) (.text (loadScript carry fields))
    (OrderedMap.ofList [("file", fileInput)]) .null (.ofTexts ["jq"])
    (.text ("Load and validate outputs from " ++ file))

/-! ## Existing executables -/

/-- What follows the last slash of a path. -/
def baseName (path : String) : String :=
  String.ofList (path.toList.reverse.takeWhile (· != '/')).reverse

/-- The path of an executable. -/
def scriptPath : Value → Except Failure String
  | .text s => .ok s
  | .path s => .ok s
  | .bytes s =>
    if s.isEmpty then .ok s
    else .error (.unsuitable "cannot use a string pattern on a bytes-like object")
  | v =>
    .error (.unsuitable ("expected str, bytes or os.PathLike object, not " ++ v.kindName))

/-- A step that runs an executable. -/
def fromScript (name : String) (script : Value) (outputs : List String) : Except Failure Step := do
  let path ← scriptPath script
  let base := baseName path
  .ok
    { Step.plain (.text name) (.text (Shell.quote path ++ "\n")) with
      action := some
        { name := .text name, actionName := .text name, inputs := ∅, outputs := outputs,
          description := .text ("Wrapped script: " ++ (if base.isEmpty then name else base)),
          inputValues := ∅ } }

end ShellFlow.ReadyMade

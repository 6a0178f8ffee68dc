import ShellFlow.CommandLine.Session
import ShellFlow.Settings
import ShellFlow.WorkflowFile

/-!
# Discovery

Finding the workflow file of a command: the one that was named, or else the only one in the current
directory.
-/

namespace ShellFlow.Discovery

/-- What the names of workflow files end in, as far as they are looked for. -/
def searchedEnding : String := "_workflow.py"

/-- True of the names that are looked for besides the settings' own. -/
def isCandidate (name : String) : Bool := searchedEnding.toList.isSuffixOf name.toList

/-- The workflow files of the current directory: the one of the settings first, then the others by
their names. -/
def candidates (settings : Settings) (workspace : Workspace) : Except Failure (List Path) := do
  let standard := Path.ofText settings.workflowFile
  let found := (Failure.sortNames (workspace.names.filter isCandidate)).map (Path.mk 0 [·])
  let others := found.filter fun path => decide (path ≠ standard)
  .ok ((if ← workspace.has standard then [standard] else []) ++ others)

/-- The path that a given text stands for: the ending may be left out. -/
def complete (workspace : Workspace) (path : Path) : Except Failure Path := do
  if !(← workspace.has path) && decide (path.suffix ≠ WorkflowFile.ending) then
    .ok (path.withName (path.name ++ WorkflowFile.ending))
  else .ok path

/-- The workflow file of a command. -/
def discover (settings : Settings) (workspace : Workspace) : Option String → Session Path
  | some argument => do
    let path ← Session.ofExcept (complete workspace (Path.ofText argument))
    if ← Session.ofExcept (workspace.has path) then .ok path
    else
      .refuse (.error "Workflow file not found" ("No such file: " ++ argument) []
        "Pass an existing file:\n  typedci compile --workflow my_workflow.py")
  | none => do
    match ← Session.ofExcept (candidates settings workspace) with
    | [] =>
      .refuse (.error "No workflow file found" "Nothing to compile in the current directory."
        ["Looked for:", "  " ++ settings.workflowFile, "  *" ++ searchedEnding]
        ("Create " ++ settings.workflowFile ++ ", or pass --workflow FILE"))
    | [path] => .ok path
    | paths =>
      .refuse (.error "Multiple workflow files found" "Pick one with --workflow:"
        (paths.map Path.text) "")

end ShellFlow.Discovery

import ShellFlow.FileTree
import ShellFlow.Object.Extension

/-!
# Workflow files

A workflow file is a program that defines objects under names. What counts are the names `workflow`,
a function that gives a workflow, `WORKFLOW`, a workflow, and `JOBS`, jobs of which a workflow is
made with `NAME` and `EXTENSIONS`; the first of the three that fits wins. A file may give a mixed
workflow, because nothing is looked at that the making of the workflow does not need.
-/

namespace ShellFlow

/-- Something that a workflow file defines. -/
inductive Definition where
  | object (object : Object)
  | extensions (extensions : List ObjectExtension)
  /-- Something that can be called without arguments. -/
  | function (call : Unit → Traced Object)

/-- The things that a workflow file defines, by their names. -/
abbrev Definitions := OrderedMap String Definition

/-- What a file holds. -/
inductive FileContent where
  | text (content : String)
  /-- A program, which may fail before it has defined everything. -/
  | program (run : Unit → Traced Definitions)

/-- The files around a command. -/
abbrev Workspace := FileTree FileContent

namespace WorkflowFile

def ending : String := ".py"

/-- The failure of looking up a path with a NUL in it. -/
def nulFailure : Failure := .invalidArgument "embedded null byte"

/-- A path with its first component replaced if it names a home directory. -/
def expandHome (workspace : Workspace) (path : Path) : Except Failure Path :=
  match path.isAbsolute, path.components with
  | false, first :: rest =>
    match first.toList with
    | '~' :: user =>
      if user.contains '\x00' then .error nulFailure
      else
        match workspace.homes.get? (String.ofList user) with
        | some home => .ok ⟨1, home ++ rest⟩
        | none => .error .unknownHome
    | _ => .ok path
  | _, _ => .ok path

/-- The place of the workflow file that a path names. -/
def locate (workspace : Workspace) (path : Path) : Except Failure (List String) := do
  let expanded ← expandHome workspace path
  if expanded.hasNul then .error nulFailure
  else
    let place := expanded.resolve workspace.here
    let file := Path.ofPlace place
    if !(← workspace.has file) then .error (.missingWorkflowFile file.text)
    else if file.suffix = ending then .ok place
    else .error (.invalidArgument ("Workflow must be a .py file, got: " ++ file.name))

/-- The program that stands for a directory. -/
def mainProgram : String := "__main__.py"

/-- Runs what is at a place. Text defines nothing; a directory is run through its main program. -/
def run (workspace : Workspace) (place : List String) : Traced Definitions :=
  let start : FileContent → Traced Definitions
    | .text _ => Traced.ok ∅
    | .program run => run ()
  match workspace.contents? place with
  | some content => start content
  | none =>
    match workspace.contents? (place ++ [mainProgram]) with
    | some content => start content
    | none => Traced.fail (.noMainProgram (Path.ofPlace place).text)

/-- The name of a workflow that is made of jobs: the one that is defined, whatever value it is. -/
def workflowName (stem : String) (definitions : Definitions) : Label :=
  match definitions.get? "NAME" with
  | some (.object (.value v)) => v
  | _ => .text stem

/-- The extensions for a workflow that is made of jobs. -/
def extensions (definitions : Definitions) : List ObjectExtension :=
  match definitions.get? "EXTENSIONS" with
  | some (.extensions list) => list
  | _ => []

/-- A definition that is a mapping of jobs. -/
def jobsOf? : Definition → Option Object
  | .object o =>
    match o.entries? with
    | some entries => if entries.all fun e => e.2.isJob then some o else none
    | none => none
  | _ => none

/-- What some definitions give, which should be a workflow; the file's name without ending stands in
for a name. -/
def select (stem : String) (definitions : Definitions) : Traced Object :=
  match definitions.get? "workflow", definitions.get? "WORKFLOW", definitions.get? "JOBS" with
  -- a `workflow` that is no function is passed over
  | some (.function call), _, _ => call ()
  | _, some (.object o), _ => Traced.ok o
  | _, none, some jobs =>
    match jobsOf? jobs with
    | some o =>
      o.makeWorkflow (workflowName stem definitions) (extensions definitions) ∅
    | none => Traced.fail (.unsuitable "JOBS must be a mapping of job name -> Job.")
  | _, _, _ => Traced.ok (.value .null)

def load (workspace : Workspace) (path : Path) : Traced Object := do
  let place ← Traced.ofExcept (locate workspace path)
  let definitions ← run workspace place
  let o ← select (Path.ofPlace place).stem definitions
  if o.isWorkflow then Traced.ok o
  else
    Traced.fail (.unsuitable ("Workflow file must return/define a Workflow. "
      ++ "Define workflow() -> Workflow, WORKFLOW = mk_workflow(...) or JOBS = \x7b...\x7d."))

end WorkflowFile

end ShellFlow

import ShellFlow.CommandLine.Discovery
import ShellFlow.CommandLine.Request
import ShellFlow.Object.Output
import ShellFlow.Text.ControlSequence

/-!
# The command line

The commands: `compile` emits a workflow as engine records or as scripts, `validate` checks it,
`show` prints what it is made of. A run of the program is a function of the settings, the files and
the words of the command line; its outcome holds what is written to the two streams and to files.

## Main statements

* `run_of_usageError`: a command line that cannot be understood writes nothing but a complaint.
-/

namespace ShellFlow

/-- What a run of the program leaves behind. -/
structure Outcome where
  exitCode : Nat
  report : Report
  workspace : Workspace
  /-- A failure that no command deals with. -/
  escaped : Option Failure := none

namespace Outcome

/-- A file that is new or changed, by its components seen from the current directory. -/
def changed (before : Workspace) : List String × FileContent → Option (String × String)
  | (place, .text new) =>
    let same := match before.contents? place with
      | some (.text old) => decide (new = old)
      | _ => false
    if same || !before.here.isPrefixOf place then none
    else some ("/".intercalate (place.drop before.here.length), new)
  | (_, .program _) => none

/-- The texts that a run has written in the current directory, by the paths of their files. -/
def written (outcome : Outcome) (before : Workspace) : List (String × String) :=
  (outcome.workspace.files.entries.filterMap (changed before)).mergeSort
    fun a b => decide (a.1 ≤ b.1)

end Outcome

namespace CommandLine

/-- The first line of the help text. -/
def usageLine : String := "Usage: typedci [OPTIONS] COMMAND [ARGS]..."

def helpLines : List String :=
  [usageLine, "",
   "  typedci: typed actions and jobs compiled to shell workflows.", "",
   "Options:",
   "  --debug  Show debug output and tracebacks",
   "  --help   Show this message and exit.", "",
   "Commands:",
   "  compile   Compile a workflow for the execution engine.",
   "  show      Print jobs, their steps and how they are wired.",
   "  validate  Type-check a workflow and its step references."]

/-- A number of jobs, as it is shown. -/
def jobCount (n : Nat) : String := toString n ++ " job(s)"

/-- The name and the jobs of an object that must be a workflow. -/
def contents (o : Object) : Session (Label × List (Value × Object)) := do
  let name ← Session.ofExcept o.nameOf
  let jobs ← Session.ofExcept o.jobsOf
  Session.ok (name, jobs)

/-- Finds and loads the workflow of a command. -/
def load (settings : Settings) (debug : Bool) (workspace : Workspace) (argument : Option String) :
    Session Object := do
  let path ← Discovery.discover settings workspace argument
  let loaded := WorkflowFile.load workspace path
  -- the debug text of the extensions is shown whether the file loads or not
  Session.say (.ofTrace debug loaded.trace)
  match loaded.result with
  | .ok workflow =>
    let (name, jobs) ← contents workflow
    Session.say (.debugLine debug ("Loaded workflow '" ++ name.display ++ "' with "
      ++ jobCount jobs.length ++ " from " ++ path.text))
    Session.ok workflow
  | .error failure =>
    if failure.isCompileError then
      Session.refuse (.compileError debug "Workflow failed to compile" path.text failure)
    else
      Session.refuse (.error "Failed to load workflow" ("Could not load " ++ path.text)
        [failure.message] "" ++ Report.tracebackIf debug)

/-- The workflow with the jobs of some names only; with all of them if no name is given. -/
def selectJobs (workflow : Object) (names : List String) : Session Object := do
  let (name, jobs) ← contents workflow
  let missing ← Session.ofExcept (workflow.missingJobs names)
  if names.isEmpty then Session.ok workflow
  else if missing.isEmpty then Session.ofExcept (workflow.restrict names)
  else
    let known ← Session.ofExcept (Value.joinedTexts 0 (jobs.map Prod.fst))
    Session.refuse (.error "Unknown job"
      ("Job(s) not in workflow '" ++ name.display ++ "': " ++ ", ".intercalate missing)
      ["Known jobs: " ++ ", ".intercalate known] "")

def emit (format : Format) (workflow : Object) : Except Failure String :=
  match format with
  | .json => workflow.toJsonText (some 2)
  | .shell => workflow.listing

/-- Emits a workflow, to a file if one is named. -/
def compile (debug : Bool) (workspace : Workspace) (format : Format) (names : List String)
    (output : Option String) (loaded : Object) : Session Workspace := do
  let workflow ← selectJobs loaded names
  let (name, jobs) ← contents workflow
  Session.say (.debugLine debug ("Compiling workflow '" ++ name.display ++ "' ("
    ++ jobCount jobs.length ++ ") as " ++ format.text))
  let text ← Session.ofExcept (emit format workflow)
  match output with
  | none =>
    -- no text goes to a terminal
    Session.say (.print [Text.withoutSequences text])
    Session.ok workspace
  | some path =>
    let after ← Session.ofExcept (workspace.write (Path.ofText path) (.text (text ++ "\n")))
    Session.say (.debugLine debug ("Wrote " ++ path))
    Session.ok after

def validate (debug : Bool) (workflow : Object) : Session Unit := do
  let (name, jobs) ← contents workflow
  match workflow.validate with
  | .ok _ => Session.say (.validationOk name.display (toString jobs.length))
  | .error failure =>
    if failure.isCompileError then
      Session.refuse (.compileError debug "Validation failed"
        ("Workflow '" ++ name.display ++ "'") failure)
    else Session.ofExcept (.error failure)

/-- Runs a command; the result is the files after it. -/
def execute (settings : Settings) (debug : Bool) (workspace : Workspace) :
    Command → Session Workspace
  | .compile argument format names output => do
    let workflow ← load settings debug workspace argument
    compile debug workspace format names output workflow
  | .validate argument => do
    let workflow ← load settings debug workspace argument
    validate debug workflow
    Session.ok workspace
  | .display argument => do
    let workflow ← load settings debug workspace argument
    workflow.overview
    Session.ok workspace

/-- Refuses an output path that leads to a directory. -/
def checkOutput (workspace : Workspace) : Command → Except UsageError Unit
  | .compile _ _ _ (some path) =>
    if workspace.hasDirectory (Path.ofText path) then .error (.directory "--output" path)
    else .ok ()
  | _ => .ok ()

/-- The request of a command line that can be carried out. -/
def request (workspace : Workspace) (words : List String) : Except Refusal Request := do
  let request ← Request.ofWords words
  match request with
  | .help => .ok request
  | .run _ command =>
    Request.understood (checkOutput workspace command)
    .ok request

/-- The outcome of a session that started with some files. -/
def outcome (workspace : Workspace) (session : Session Workspace) : Outcome :=
  match session.result with
  | .ok after => { exitCode := 0, report := session.report, workspace := after }
  | .error .refused => { exitCode := 1, report := session.report, workspace := workspace }
  | .error (.escaped failure) =>
    { exitCode := 1, report := session.report, workspace := workspace, escaped := some failure }

/-- Carries out what a command line asks for. -/
def respond (settings : Settings) (workspace : Workspace) (words : List String) : Outcome :=
  match request workspace words with
  | .error (.failure failure) =>
    { exitCode := 1, report := {}, workspace := workspace, escaped := some failure }
  | .error (.usage e) =>
    { exitCode := 2
      report := .complain [usageLine, "", "Error: " ++ e.message]
      workspace := workspace }
  | .ok .help => { exitCode := 0, report := .print helpLines, workspace := workspace }
  | .ok (.run debug command) => outcome workspace (execute settings debug workspace command)

def run (settings : Settings) (workspace : Workspace) (words : List String) : Outcome :=
  let outcome := respond settings workspace words
  { outcome with report := ({ showsDebug := Request.debugOf? words } : Report) ++ outcome.report }

theorem run_of_usageError {settings : Settings} {workspace : Workspace} {words : List String}
    {e : UsageError} (h : request workspace words = .error (.usage e)) :
    (run settings workspace words).exitCode = 2
      ∧ (run settings workspace words).report.out = []
      ∧ (run settings workspace words).workspace = workspace := by
  unfold run respond
  rw [h]
  exact ⟨rfl, rfl, rfl⟩

end CommandLine

end ShellFlow

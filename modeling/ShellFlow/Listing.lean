import ShellFlow.Workflow

/-!
# Listings

All scripts of a workflow as one text, a block for each job and in it one for each step. Every
script has to be a text.
-/

namespace ShellFlow.Workflow

def stepHeading (i : Nat) (name : Label) (condition : Value) : String :=
  let suffix := if condition.isTruthy then " (if " ++ condition.display ++ ")" else ""
  "# ----- step " ++ toString i ++ ": " ++ name.display ++ suffix ++ " -----"

/-- A script without the newlines at its end. -/
def scriptText : Value → Except Failure String
  | .text s => .ok (Text.stripNewlines s)
  | .bytes _ => .error (.unsuitable "a bytes-like object is required, not 'str'")
  | v => .error (.missingOperation v.kindName "rstrip")

/-- The lines of the steps from position `i` on. -/
def stepListing (i : Nat) : List Step → Except Failure (List String)
  | [] => .ok []
  | step :: rest => do
    let script ← scriptText step.run
    .ok (stepHeading i step.name step.condition :: script :: (← stepListing (i + 1) rest))

/-- The lines of a job, from those of its steps. -/
def jobBlock (name : String) (steps : List String) : List String :=
  ("# ===== job: " ++ name ++ " =====") :: (steps ++ [""])

def jobListing (name : String) (job : Job) : Except Failure (List String) := do
  .ok (jobBlock name (← stepListing 0 job.steps))

/-- All scripts of a workflow. -/
def listing (workflow : Workflow) : Except Failure String := do
  let blocks ← workflow.jobs.entries.mapM fun e => jobListing e.1 e.2
  .ok (Text.joinLines blocks.flatten)

end ShellFlow.Workflow

import ShellFlow.CarryChannel
import ShellFlow.Pipeline
import ShellFlow.Shell.Quote
import ShellFlow.Value.Mapping

/-!
# Env transfer

The variables of a job are gone when it ends. This extension hands the env outputs of a job over to
the jobs that need it, in a hidden artifact.

A job with env outputs makes one more artifact, a file, and has one more step at its end, which
writes the values into the file; it runs even if an earlier step has failed. A job that needs such
jobs takes their artifacts, and has one more step at its beginning, which sources the files and
appends them to the carry channel. A job that is both is extended on both sides.

The value of an env output is looked for in the variables of the job's own action steps that declare
an output of that name, the last step first, then in those of some step names that are a guess.

What a job needs is looked up among the names of the jobs, so it must be something that can be a
key.

## Main statements

* `keys_extend`: the extension keeps the jobs and their order.
-/

namespace ShellFlow

/-- The settings of the extension. -/
structure EnvTransfer where
  /-- Step names that are searched after the steps that declare the output. -/
  searchedSteps : List String := Settings.standard.searchedSteps
  carry : CarryChannel := CarryChannel.standard

namespace EnvTransfer

/-- The name of the step that writes the values. -/
def exportStepName : String := "__export-env-outputs"

/-- The name of the step that reads the values. -/
def importStepName : String := "__import-env-outputs"

def outputFile (job : String) : String := ".env-outputs-" ++ job

def outputArtifact (job : String) : String := "__envOutputs_" ++ job

/-! ## Producers -/

/-- True if a step was made from an action that declares the output. -/
def declaresOutput (output : String) (step : Step) : Bool :=
  match step.action with
  | some info => info.outputs.contains output
  | none => false

/-- The sanitized names of the steps whose variables are searched after some others, each once. -/
def searchAfter (transfer : EnvTransfer) (declared : List String) : List String :=
  (declared ++ transfer.searchedSteps.map sanitize).eraseDups

/-- The sanitized names of the steps whose variables are searched, the first match wins. -/
def searchOrder (transfer : EnvTransfer) (job : Job) (output : String) : List String :=
  -- a step that declares an output has a text for its name, because its variable is made of it
  transfer.searchAfter
    ((job.steps.reverse.filter (declaresOutput output)).filterMap fun step =>
      step.name.text?.map sanitize)

/-- The lines that find the value of an env output in the variables of some steps and write it into
the file. -/
def exportOutput (name output : String) (searched : List String) : List String :=
  let out := sanitize output
  let file := Shell.quote (outputFile name)
  ["# " ++ output,
   "_value=\"\"",
   "for _prefix in " ++ " ".intercalate searched ++ "; do",
   "  _varname=\"STEP_OUTPUT_$\x7b_prefix\x7d_" ++ out ++ "\"",
   "  _val=\"$\x7b!_varname:-\x7d\"",
   "  if [ -n \"$_val\" ]; then",
   "    _value=\"$_val\"",
   "    echo \"  " ++ output ++ "=$_value (from $_varname)\"",
   "    break",
   "  fi",
   "done",
   "if [ -z \"$_value\" ] && [ -n \"$\x7bOUTPUT_" ++ out ++ ":-\x7d\" ]; then",
   "  _value=\"$OUTPUT_" ++ out ++ "\"",
   "  echo \"  " ++ output ++ "=$_value (from OUTPUT_" ++ out ++ ")\"",
   "fi",
   "if [ -n \"$_value\" ]; then",
   "  " ++ CarryChannel.exportLine (jobOutputVar name output) "\"$_value\"" file,
   "fi"]

/-- The step that writes the values, with the lines for each of them. -/
def stepOfBlocks (transfer : EnvTransfer) (name : String) (blocks : List (List String)) : Step :=
  let lines :=
    ["echo \"Exporting env outputs for job " ++ name ++ "...\"",
     "",
     "# values set by earlier steps live in the carry channel"]
      ++ transfer.carry.source
      ++ ["", ": > " ++ Shell.quote (outputFile name)]
      ++ blocks.flatten
      ++ ["echo \"Env outputs exported to " ++ outputFile name ++ "\"", ""]
  { Step.plain (.text exportStepName) (.text (Text.joinLines lines)) with
    condition := .text "always()" }

/-- The step that writes the values of a job. -/
def exportStep (transfer : EnvTransfer) (name : String) (job : Job) : Step :=
  transfer.stepOfBlocks name
    (job.envOutputs.map fun output => exportOutput name output (transfer.searchOrder job output))

/-- A producer with its hidden artifact and the step that fills it. -/
def transformProducer (transfer : EnvTransfer) (name : String) (job : Job) : Job :=
  { job with
    outputs := job.outputs.insert (outputArtifact name) (.text (outputFile name))
    steps := job.steps ++ [transfer.exportStep name job] }

/-! ## Consumers -/

/-- The lines that read the values of one producer. -/
def importOutputs (transfer : EnvTransfer) (producer : String) : List String :=
  let file := Shell.quote (outputFile producer)
  ["if [ -f " ++ file ++ " ]; then",
   "  echo \"  Sourcing " ++ outputFile producer ++ "\"",
   "  # shellcheck disable=SC1090",
   "  source " ++ file]
    ++ Text.indentLines "  " (Text.splitNewlines (Text.joinLines (transfer.carry.appendFile file)))
    ++ ["fi"]

/-- The step that reads the values of some producers. -/
def importStep (transfer : EnvTransfer) (producers : List String) : Step :=
  Step.plain (.text importStepName)
    (.text (Text.joinLines
      (["echo \"Importing env outputs from dependencies...\""]
        ++ producers.flatMap transfer.importOutputs
        ++ ["echo \"Env outputs imported\"", ""])))

/-- The producers that a job needs, each once. -/
def neededProducers (job : Job) (producers : List String) : List String :=
  (job.needs.filterMap fun
    | .text need => if producers.contains need then some need else none
    | _ => none).eraseDups

/-- A job that takes and reads the values of the producers that it needs. -/
def transformConsumer (transfer : EnvTransfer) (job : Job) (producers : List String) : Job :=
  let needed := neededProducers job producers
  if needed.isEmpty then job
  else
    { job with
      inputs := needed.map (fun need => .text (outputArtifact need)) ++ job.inputs
      steps := transfer.importStep needed :: job.steps }

/-! ## The extension -/

def producerNames (jobs : Jobs) : List String :=
  (jobs.entries.filter fun e => !e.2.envOutputs.isEmpty).map Prod.fst

/-- A job, extended on the sides on which it takes part. -/
def transformJob (transfer : EnvTransfer) (producers : List String) (name : String) (job : Job) :
    Job :=
  -- the import comes first in the list of steps, so the export sees what was taken over
  let job := if producers.contains name then transfer.transformProducer name job else job
  transfer.transformConsumer job producers

/-- The workflow with every job extended. -/
def extend (transfer : EnvTransfer) (workflow : Workflow) : Workflow :=
  let producers := producerNames workflow.jobs
  workflow.withJobs (workflow.jobs.map (transfer.transformJob producers))

/-- Refuses a job that needs what cannot be looked up among job names. -/
def checkNeeds (job : Job) : Except Failure Unit := job.needs.forM Value.checkFixed

/-- The workflow with every job extended, if what they need can be looked up. -/
def apply (transfer : EnvTransfer) (workflow : Workflow) : Except Failure Workflow := do
  workflow.jobs.values.forM checkNeeds
  .ok (transfer.extend workflow)

def asExtension (transfer : EnvTransfer) : Extension :=
  .ofPass "EnvOutputsExtension" transfer.apply

@[simp]
theorem keys_extend (transfer : EnvTransfer) (workflow : Workflow) :
    (transfer.extend workflow).jobs.keys = workflow.jobs.keys := by
  simp [extend, Workflow.withJobs]

end EnvTransfer

end ShellFlow

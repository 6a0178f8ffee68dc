import ShellFlow.CommandLine
import ShellFlow.Sample

/-!
# The program

Runs a command line on the sample workflow: reads the settings from the environment, prints the
report, and writes the files of the outcome.
-/

namespace ShellFlow.Program

/-- The environment variables that the settings depend on. -/
def settingVariables : List String :=
  ["TYPEDCI_CARRY_VAR", "TYPEDCI_ENV_OUTPUT_PREFIXES", "TYPEDCI_WORKFLOW_FILE"]

def readSettings : IO Settings := do
  let mut set : OrderedMap String String := ∅
  for name in settingVariables do
    if let some value ← IO.getEnv name then
      set := set.insert name value
  return Settings.ofEnvironment set

/-- Shows an outcome and writes its files. -/
def finish (before : Workspace) (outcome : Outcome) : IO UInt32 := do
  IO.print outcome.report.outText
  IO.eprint outcome.report.errorText
  if let some failure := outcome.escaped then
    IO.eprintln (failure.title ++ ": " ++ failure.message)
  for (path, text) in outcome.written before do
    IO.FS.writeFile path text
  return outcome.exitCode.toUInt32

end ShellFlow.Program

open ShellFlow in
/-- Runs the program with the words of its command line. -/
def main (words : List String) : IO UInt32 := do
  let settings ← Program.readSettings
  let workspace := Sample.workspace settings.workflowFile
  Program.finish workspace (CommandLine.run settings workspace words)

import ShellFlow.Settings
import ShellFlow.Text.Lines

/-!
# The carry channel

The way by which variables reach the later steps of a job. The engine names an append-only file of
`export` lines in a variable and sources that file before every step; the texts here are the shell
fragments that refer to it.
-/

namespace ShellFlow

/-- A carry channel, given by the variable that names its file. -/
structure CarryChannel where
  var : String := Settings.standard.carryVar
  deriving DecidableEq, Repr

namespace CarryChannel

/-- The channel of the standard settings. -/
def standard : CarryChannel := {}

/-- The file, as a word. -/
def ref (carry : CarryChannel) : String := "\"$" ++ carry.var ++ "\""

/-- A condition that holds while the channel is active. -/
def guard (carry : CarryChannel) : String := "[ -n \"$\x7b" ++ carry.var ++ ":-\x7d\" ]"

/-- The command that appends an escaped `export` of a name to a file. -/
def exportLine (name value file : String) : String :=
  "echo \"export " ++ name ++ "=$(printf '%q' " ++ value ++ ")\" >> " ++ file

/-- The command that keeps a value for the later steps. -/
def appendExport (carry : CarryChannel) (name value : String) : String :=
  exportLine name value carry.ref

/-- The lines that read what was kept. -/
def source (carry : CarryChannel) : List String :=
  ["if " ++ carry.guard ++ " && [ -f " ++ carry.ref ++ " ]; then",
   "  # shellcheck disable=SC1090",
   "  source " ++ carry.ref,
   "fi"]

/-- The lines that append a file to the channel. -/
def appendFile (carry : CarryChannel) (file : String) : List String :=
  ["if " ++ carry.guard ++ "; then",
   "  cat " ++ file ++ " >> " ++ carry.ref,
   "fi"]

end CarryChannel

end ShellFlow

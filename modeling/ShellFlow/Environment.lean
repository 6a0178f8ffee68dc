import ShellFlow.Failure
import ShellFlow.OrderedMap

/-!
# Environment variables

Which variables can be set: names and values hold no NUL, and a name is not empty and holds no `=`.
Of several values for one variable the last one is set, and the others are not looked at.
-/

namespace ShellFlow.Environment

/-- True of a text with a NUL in it. -/
def hasNul (s : String) : Bool := s.toList.contains '\x00'

/-- Refuses a variable that cannot be set. -/
def checkVariable (name value : String) : Except Failure Unit :=
  if hasNul name || hasNul value then .error (.invalidArgument "embedded null byte")
  else if name.toList.contains '=' then
    .error (.invalidArgument "illegal environment variable name")
  else if name.isEmpty then .error (.raised "OSError" "[Errno 22] Invalid argument")
  else .ok ()

/-- The environment of some variables, set one by one. -/
def ofVariables (pairs : List (String × String)) :
    Except Failure (OrderedMap String String) := do
  let env := OrderedMap.ofList pairs
  env.entries.forM fun v => checkVariable v.1 v.2
  .ok env

end ShellFlow.Environment

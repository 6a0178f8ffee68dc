import ShellFlow.OrderedMap
import ShellFlow.Text.Blank

/-!
# Settings

What can be changed from outside: the variable of the carry channel, the step names that are
searched for env outputs, and the name of the workflow file that is looked for first.
-/

namespace ShellFlow

/-- The settings of a run. -/
structure Settings where
  /-- The variable that names the carry file. -/
  carryVar : String
  /-- Step names that are searched for an env output after the steps that declare it. -/
  searchedSteps : List String
  /-- The name of the workflow file that is looked for first. -/
  workflowFile : String
  deriving DecidableEq, Repr

namespace Settings

/-- The settings in an environment: a variable that is set wins over the built-in text. -/
def ofEnvironment (env : OrderedMap String String) : Settings where
  carryVar := (env.get? "TYPEDCI_CARRY_VAR").getD "JOB_ENV"
  searchedSteps :=
    Text.words ((env.get? "TYPEDCI_ENV_OUTPUT_PREFIXES").getD
      "build_app run_tests deploy_app build test deploy")
  workflowFile := (env.get? "TYPEDCI_WORKFLOW_FILE").getD "typedci_workflow.py"

/-- The settings when no variable is set. -/
def standard : Settings := ofEnvironment ∅

end Settings

end ShellFlow

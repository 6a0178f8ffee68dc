import ShellFlow.Identifier

/-!
# References

Placeholders for values that exist only while a script runs. A reference stands for a shell variable
and is written as the expansion of it. Step, job, output and dimension names are sanitized to become
part of the variable name; the name of an environment variable is taken as it is.
-/

namespace ShellFlow

/-- The shell variable that holds an output of a step. -/
def stepOutputVar (step output : String) : String :=
  "STEP_OUTPUT_" ++ sanitize step ++ "_" ++ sanitize output

/-- The shell variable that holds an output of another job. -/
def jobOutputVar (job output : String) : String :=
  "JOB_OUTPUT_" ++ sanitize job ++ "_" ++ sanitize output

/-- The shell variable that holds the value of a matrix dimension. -/
def matrixVar (key : String) : String := "MATRIX_" ++ sanitize key

/-- A placeholder for a value that a script finds in one of its variables. -/
inductive Reference where
  /-- An output of an earlier step of the same job. -/
  | stepOutput (step output : String)
  /-- An environment variable. -/
  | envVar (name : String)
  /-- The value of a matrix dimension for the job at hand. -/
  | matrix (key : String)
  /-- An env output of a job that this one needs. -/
  | jobOutput (job output : String)
  deriving DecidableEq, Repr

namespace Reference

/-- The shell variable that a reference stands for. -/
def var : Reference → String
  | .stepOutput step output => stepOutputVar step output
  | .envVar name => name
  | .matrix key => matrixVar key
  | .jobOutput job output => jobOutputVar job output

/-- The expansion of the variable, in braces and without quotes. -/
def expansion (r : Reference) : String := "$\x7b" ++ r.var ++ "\x7d"

def fields : Reference → List (String × String)
  | .stepOutput step output => [("step", step), ("output", output)]
  | .envVar name => [("name", name)]
  | .matrix key => [("key", key)]
  | .jobOutput job output => [("job", job), ("output", output)]

def kindName : Reference → String
  | .stepOutput .. => "StepOutput"
  | .envVar .. => "EnvVar"
  | .matrix .. => "Matrix"
  | .jobOutput .. => "JobOutput"

/-- The tag of a reference in engine records. -/
def tag : Reference → String
  | .stepOutput .. => "stepOutput"
  | .envVar .. => "fromEnv"
  | .matrix .. => "matrix"
  | .jobOutput .. => "jobOutput"

end Reference

end ShellFlow

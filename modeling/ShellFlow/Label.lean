import ShellFlow.Failure
import ShellFlow.Identifier

/-!
# Labels in variable names

Input and output names become part of a shell variable as they are, so they have to be shell names.
Step and job names are sanitized for it, so any text will do, but it must be a text.

## Main statements

* `variablePart_eq_ok_iff`: the texts and nothing else can become part of a variable.
-/

namespace ShellFlow

/-- The text of a label that becomes part of a variable. -/
def Value.variablePart : Label → Except Failure String
  | .text s => .ok s
  | .bytes _ => .error (.unsuitable "cannot use a string pattern on a bytes-like object")
  | v => .error (.unsuitable ("expected string or bytes-like object, got '" ++ v.kindName ++ "'"))

/-- Checks the names that become part of a variable as they are: the first that is no shell name is
refused. -/
def checkNames (owner : Label) (names : List Value) (what : Label) :
    Except Failure (List String) :=
  names.mapM fun
    | .text s => if isShellName s then .ok s else .error (.invalidName owner (.text s) what)
    | v => .error (.invalidName owner (.text v.display) what)

theorem variablePart_eq_ok_iff {label : Label} {s : String} :
    label.variablePart = .ok s ↔ label = .text s := by
  cases label <;> simp [Value.variablePart]

end ShellFlow

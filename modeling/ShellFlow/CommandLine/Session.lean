import ShellFlow.Failure
import ShellFlow.Report

/-!
# Sessions

A computation that reports as it goes and may stop early: because it has told the user what is
wrong, or because a failure came up that it does not deal with. What was reported until then stays.

## Main statements

* `ok_bind`: a session without report or stop is neutral before another.
* `report_bind_of_error`: after a stop nothing more is reported.
-/

namespace ShellFlow

/-- Why a session stops early. -/
inductive Stop where
  /-- The report says what is wrong. -/
  | refused
  /-- A failure that is not dealt with. -/
  | escaped (failure : Failure)

/-- A report, and a result unless the session stopped. -/
structure Session (α : Type) where
  report : Report
  result : Except Stop α

namespace Session

variable {α β : Type}

/-- A result without a report. -/
def ok (a : α) : Session α := ⟨{}, .ok a⟩

/-- A report that the session goes on after. -/
def say (report : Report) : Session Unit := ⟨report, .ok ()⟩

/-- A report with which the session ends. -/
def refuse (report : Report) : Session α := ⟨report, .error .refused⟩

/-- The result, or an end of the session. -/
def ofExcept : Except Failure α → Session α
  | .ok a => ok a
  | .error failure => ⟨{}, .error (.escaped failure)⟩

/-- Goes on with the result. -/
def bind (x : Session α) (f : α → Session β) : Session β :=
  match x.result with
  | .ok a => ⟨x.report ++ (f a).report, (f a).result⟩
  | .error stop => ⟨x.report, .error stop⟩

instance : Monad Session where
  pure := ok
  bind := bind

theorem ok_bind (a : α) (f : α → Session β) : (ok a).bind f = f a := by
  simp [bind, ok, Report.empty_append]

theorem report_bind_of_error {x : Session α} {stop : Stop} (h : x.result = .error stop)
    (f : α → Session β) : (x.bind f).report = x.report := by
  simp [bind, h]

end Session

end ShellFlow

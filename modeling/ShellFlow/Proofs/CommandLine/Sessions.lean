import ShellFlow.CommandLine

/-!
# What a session has written when it stops

A command first loads and looks at its workflow and then writes. Until then it only complains, on
the error stream, so nothing is on the standard stream if it stops.

* **`result_bind`**, **`report_bind`** — two sessions in a row.
* **`IsSilent.bind`**, **`StopsSilently.bind`** — what is written to the standard stream.
* **`isSilent_load`** — finding and loading a workflow writes nothing there.
-/

namespace ShellFlow

/-- Reports are put together in order, so it does not matter which two are put together first. The
last word on debug text is the one that counts. -/
theorem Report.append_assoc (a b c : Report) : a ++ (b ++ c) = a ++ b ++ c := by
  show Report.mk (a.out ++ (b.out ++ c.out)) (a.errors ++ (b.errors ++ c.errors))
      ((c.showsDebug.or b.showsDebug).or a.showsDebug) = _
  rw [← List.append_assoc, ← List.append_assoc, Option.or_assoc]
  rfl

namespace Session

variable {α β : Type} {x : Session α} {f : α → Session β} {a : α} {b : β}

/-! ## Two sessions in a row

The reports of two sessions in a row are added, or the second session is never reached. So a property
of reports goes over from the two to both together. -/

/-- The law `ok_bind`, for a session that is written with `do`. -/
theorem ok_bind_eq (a : α) (f : α → Session β) : (Session.ok a >>= f) = f a := ok_bind a f

/-- After a session with a result, the next one decides how both end. -/
theorem result_bind (h : x.result = .ok a) : (x >>= f).result = (f a).result := by
  show (x.bind f).result = _
  rw [Session.bind, h]

/-- After a session with a result, what the next one reports is added. If there is no result,
`report_bind_of_error` says that nothing is. -/
theorem report_bind (h : x.result = .ok a) : (x >>= f).report = x.report ++ (f a).report := by
  show (x.bind f).report = _
  rw [Session.bind, h]

/-- Nothing is written to the standard stream. -/
def IsSilent (x : Session α) : Prop := x.report.out = []

/-- Nothing is written to the standard stream before an early end. -/
def StopsSilently (x : Session α) : Prop := ∀ stop, x.result = .error stop → x.report.out = []

/-- Who never writes does not write before an early end. -/
theorem IsSilent.stopsSilently (h : x.IsSilent) : x.StopsSilently := fun _ _ => h

/-- Two silent sessions in a row are silent, whether the second is reached or not. -/
theorem IsSilent.bind (hx : x.IsSilent) (hf : ∀ a, (f a).IsSilent) : (x >>= f).IsSilent := by
  show (x.bind f).report.out = []
  cases hresult : x.result with
  | error stop => rw [report_bind_of_error hresult f, hx]
  | ok a =>
    rw [Session.bind, hresult]
    show x.report.out ++ (f a).report.out = []
    rw [hx, hf a, List.append_nil]

/-- After a silent session it is enough that the next one is silent before an early end. So of a row
of sessions only the last may write. -/
theorem StopsSilently.bind (hx : x.IsSilent) (hf : ∀ a, (f a).StopsSilently) :
    (x >>= f).StopsSilently := by
  intro stop hstop
  cases hresult : x.result with
  | error stop' =>
    show (x.bind f).report.out = []
    rw [report_bind_of_error hresult f, hx]
  | ok a =>
    rw [result_bind hresult] at hstop
    rw [report_bind hresult]
    show x.report.out ++ (f a).report.out = []
    rw [hx, hf a stop hstop, List.append_nil]

theorem isSilent_ok (a : α) : (Session.ok a).IsSilent := rfl

/-- A computation without a report is silent, whether it fails or not. -/
theorem isSilent_ofExcept (r : Except Failure α) : (Session.ofExcept r).IsSilent := by
  cases r <;> rfl

theorem isSilent_say {report : Report} (h : report.out = []) : (Session.say report).IsSilent := h

theorem isSilent_refuse {report : Report} (h : report.out = []) :
    (Session.refuse report : Session α).IsSilent := h

/-- Debug text goes to the error stream, if it is shown at all. -/
theorem out_debugLine (debug : Bool) (message : String) :
    (Report.debugLine debug message).out = [] := by
  cases debug <;> rfl

theorem out_append_tracebackIf {report : Report} (h : report.out = []) (debug : Bool) :
    (report ++ Report.tracebackIf debug).out = [] := by
  show report.out ++ _ = []
  cases debug <;> rw [h] <;> rfl

/-- The report of a failure to compile goes to the error stream, with its issues or without. -/
theorem out_compileError (debug : Bool) (title place : String) (failure : Failure) :
    (Report.compileError debug title place failure).out = [] := by
  refine out_append_tracebackIf ?_ debug
  split <;> rfl

end Session

/-! ## Finding and loading -/

open Session

namespace Discovery

/-- Looking for the workflow file writes nothing to the standard stream: it finds one, or complains
that there is none or that there are several. -/
theorem isSilent_discover (settings : Settings) (workspace : Workspace) (argument : Option String) :
    (discover settings workspace argument).IsSilent := by
  cases argument with
  | none =>
    refine (isSilent_ofExcept _).bind fun found => ?_
    match found with
    | [] | [_] | _ :: _ :: _ => rfl
  | some argument =>
    refine (isSilent_ofExcept _).bind fun path => (isSilent_ofExcept _).bind fun there => ?_
    cases there <;> rfl

end Discovery

namespace CommandLine

/-- Looking at the name and the jobs of an object writes nothing. -/
theorem isSilent_contents (o : Object) : (contents o).IsSilent :=
  (isSilent_ofExcept _).bind fun _ => (isSilent_ofExcept _).bind fun _ => isSilent_ok _

/-- Loading a workflow writes nothing to the standard stream. The debug text of the extensions and
the complaint about a file that cannot be loaded go to the error stream. -/
theorem isSilent_load (settings : Settings) (debug : Bool) (workspace : Workspace)
    (argument : Option String) : (load settings debug workspace argument).IsSilent := by
  refine (Discovery.isSilent_discover settings workspace argument).bind fun path => ?_
  refine (isSilent_say rfl).bind fun _ => ?_
  cases (WorkflowFile.load workspace path).result with
  | ok workflow =>
    exact (isSilent_contents workflow).bind fun _ =>
      (isSilent_say (out_debugLine debug _)).bind fun _ => isSilent_ok workflow
  | error failure =>
    dsimp only
    split
    · exact isSilent_refuse (out_compileError debug _ _ failure)
    · exact isSilent_refuse (out_append_tracebackIf rfl debug)

end CommandLine

end ShellFlow

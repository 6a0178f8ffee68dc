import ShellFlow.Failure
import ShellFlow.Text.Blank
import ShellFlow.Text.Lines
import ShellFlow.Traced

/-!
# Reports

What is shown on the two output streams: headers and good news on the standard one, errors and debug
text on the other. A traceback is not shown itself; one mark stands for it and for everything
that follows it on the stream. A line that begins like a traceback counts as one.
-/

namespace ShellFlow

/-- Something that is written to the error stream. -/
inductive ErrorLine where
  | line (text : String)
  | traceback
  deriving DecidableEq, Repr

/-- What a program has written, line by line. -/
structure Report where
  out : List String := []
  errors : List ErrorLine := []
  /-- Whether debug text is shown from now on, if the program has said so. -/
  showsDebug : Option Bool := none

namespace Report

/-- The report with further lines after its own. -/
def append (a b : Report) : Report where
  out := a.out ++ b.out
  errors := a.errors ++ b.errors
  showsDebug := b.showsDebug.or a.showsDebug

instance : Append Report := ⟨append⟩

theorem empty_append (r : Report) : ({} : Report) ++ r = r := by
  obtain ⟨out, errors, showsDebug⟩ := r
  cases showsDebug <;> rfl

/-- Says whether debug text is shown from now on. -/
def settleDebug (shows : Bool) : Report := { showsDebug := some shows }

/-- Lines on the standard stream. -/
def print (lines : List String) : Report := { out := lines }

def complain (lines : List String) : Report := { errors := lines.map .line }

def traceback : Report := { errors := [.traceback] }

def tracebackIf (debug : Bool) : Report := if debug then traceback else {}

/-- The text of lines, each with its newline. -/
def linesText (lines : List String) : String := String.join (lines.map (· ++ "\n"))

/-- How tracebacks begin, the last one when there is nothing to trace. -/
def tracebackStarts : List String := ["Traceback (most recent call last):", "NoneType: None"]

/-- True of a line that begins like a traceback. -/
def startsTraceback (line : String) : Bool :=
  tracebackStarts.any fun start => start.toList.isPrefixOf line.toList

/-- The lines of the error stream up to the first traceback, for which a mark stands. -/
def errorLines : List ErrorLine → List String
  | [] => []
  | .line text :: rest =>
    let lines := Text.splitNewlines text
    let shown := lines.takeWhile fun line => !startsTraceback line
    if shown.length < lines.length then shown ++ ["<traceback>"] else lines ++ errorLines rest
  | .traceback :: _ => ["<traceback>"]

/-- The text on the standard stream. -/
def outText (r : Report) : String := linesText r.out

def errorText (r : Report) : String := linesText (errorLines r.errors)

/-! ## The parts of a report -/

/-- A title over a line of a width. -/
def titled (title : String) (width : Nat) : Report :=
  print ["", title, String.ofList (List.replicate width '=')]

/-- A title, underlined. -/
def header (title : String) : Report := titled title title.length

/-- The line for a workflow that has passed its checks, with the number of its jobs. -/
def validationOk (workflow jobs : String) : Report :=
  print ["VALID: " ++ workflow ++ " (" ++ jobs ++ " job(s))"]

/-- An error block: a title, a message, details and what to do about it. -/
def error (title message : String) (details : List String) (suggestion : String) : Report :=
  complain
    (["", "ERROR: " ++ title, message] ++ details.map ("  " ++ ·)
      ++ (if suggestion.isEmpty then [] else ["", suggestion]))

/-- The error block of a failure to compile; a failed validation is listed issue by issue. -/
def compileError (debug : Bool) (title place : String) (failure : Failure) : Report :=
  let lines := Text.breakLines failure.message
  let block :=
    match failure, lines with
    -- the margin of the issues is replaced by that of the details
    | .validation .., first :: rest =>
      error title (place ++ ": " ++ first) (rest.map Text.strip) ""
    | _, _ => error title (place ++ ": " ++ failure.title) lines ""
  block ++ tracebackIf debug

/-- An error that nothing more is known of. -/
def exception (debug : Bool) (failure : Failure) : Report :=
  if debug then traceback else complain ["Error: " ++ failure.message]

def debugLines (messages : List String) : Report := complain (messages.map ("[DEBUG] " ++ ·))

/-- A line of debug text, shown only if debugging. -/
def debugLine (debug : Bool) (message : String) : Report :=
  if debug then debugLines [message] else {}

/-- What is shown of a trace, and what it says of the debug text after it. -/
def ofTrace (debug : Bool) (trace : List TraceEntry) : Report :=
  debugLines (TraceEntry.visible debug trace) ++ settleDebug (TraceEntry.showsAfter debug trace)

end Report

end ShellFlow

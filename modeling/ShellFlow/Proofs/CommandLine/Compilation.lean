import ShellFlow.Proofs.CommandLine.Sessions
import ShellFlow.Proofs.Transfer.Jobs
import ShellFlow.Proofs.Workflow.Assembly

/-!
# Compiling some of the jobs

A run that compiles a workflow either writes the text of the jobs that are asked for, to the file
that is named or to the standard stream, or it fails and leaves both as they were.

* **`stopsSilently_compile`** — nothing is written before everything else has gone well.
* **`run_compiles`** — the runs of `compile`: how they fail and what they write, next to what is
  written of all jobs.
-/

namespace ShellFlow

/-- An outcome to which a report of what came before is added. -/
def Outcome.after (o : Outcome) (before : Report) : Outcome := { o with report := before ++ o.report }

/-- What came before two reports came before their first. -/
theorem Outcome.after_after (o : Outcome) (a b : Report) : (o.after b).after a = o.after (a ++ b) := by
  rw [Outcome.after, Outcome.after, Outcome.after, ← Report.append_assoc]

namespace CommandLine

open Session

variable {settings : Settings} {workspace : Workspace} {words : List String} {debug : Bool}
  {argument output : Option String} {format : Format} {names : List String} {w : Workflow}
  {text : String}

/-! ## Outcomes -/

/-- A run ends well exactly if its session has a result: both kinds of early end give another
code. -/
theorem exitCode_outcome_eq_zero_iff {session : Session Workspace} :
    (outcome workspace session).exitCode = 0 ↔ ∃ after, session.result = .ok after := by
  unfold outcome
  cases session.result with
  | ok after => simp
  | error stop => cases stop <;> simp

/-- The outcome of two sessions in a row, if the first has a result: that of the second, after what
the first has reported. -/
theorem outcome_bind {α : Type} {x : Session α} {f : α → Session Workspace} {a : α}
    (h : x.result = .ok a) :
    outcome workspace (x >>= f) = (outcome workspace (f a)).after x.report := by
  unfold outcome
  rw [result_bind h, report_bind h]
  cases (f a).result with
  | ok after => rfl
  | error stop => cases stop <;> rfl

/-- The text has been written to the file that is named, or to the standard stream if none is. No
other file has changed. -/
def Delivers (before : Workspace) (output : Option String) (text : String) (outcome : Outcome) :
    Prop :=
  match output with
  | none => outcome.report.out = [text] ∧ outcome.workspace = before
  | some path =>
    outcome.report.out = []
      ∧ before.write (Path.ofText path) (.text (text ++ "\n")) = .ok outcome.workspace
      ∧ ∃ place, before.follow (Path.ofText path) = .ok place
        ∧ ∀ other, outcome.workspace.contents? other =
            if place = other then some (.text (text ++ "\n")) else before.contents? other

/-- What was written before to the error stream does not matter. -/
theorem Delivers.after {o : Outcome} (h : Delivers workspace output text o) {before : Report}
    (hbefore : before.out = []) : Delivers workspace output text (o.after before) := by
  have hout : (o.after before).report.out = o.report.out := by
    show before.out ++ o.report.out = _
    rw [hbefore, List.nil_append]
  cases output with
  | none => exact ⟨hout.trans h.1, h.2⟩
  | some path => exact ⟨hout.trans h.1, h.2⟩

/-! ## Writing

A text is written to the standard stream or to a file. Both are looked at together, since what is
written is the same. -/

/-- The last step of `compile`. -/
def deliver (debug : Bool) (workspace : Workspace) (output : Option String) (text : String) :
    Session Workspace :=
  match output with
  | none => do
    Session.say (.print [Text.withoutSequences text])
    Session.ok workspace
  | some path => do
    let after ← Session.ofExcept (workspace.write (Path.ofText path) (.text (text ++ "\n")))
    Session.say (.debugLine debug ("Wrote " ++ path))
    Session.ok after

/-- Emits a workflow and writes the text. -/
def emission (debug : Bool) (workspace : Workspace) (format : Format) (output : Option String)
    (o : Object) : Session Workspace := do
  let text ← Session.ofExcept (emit format o)
  deliver debug workspace output text

/-- The session of `compile` in four parts: the choice of jobs, a look at what was chosen, a debug
line, and the emission. The lemmas below go through them in this order. -/
theorem compile_eq (debug : Bool) (workspace : Workspace) (format : Format) (names : List String)
    (output : Option String) (loaded : Object) :
    compile debug workspace format names output loaded = (do
      let workflow ← selectJobs loaded names
      let (name, jobs) ← contents workflow
      Session.say (.debugLine debug ("Compiling workflow '" ++ name.display ++ "' ("
        ++ jobCount jobs.length ++ ") as " ++ format.text))
      emission debug workspace format output workflow) := rfl

/-- Choosing jobs writes nothing to the standard stream, whether all names are known or not. -/
theorem isSilent_selectJobs (o : Object) (names : List String) : (selectJobs o names).IsSilent := by
  refine (isSilent_contents o).bind fun _ => (isSilent_ofExcept _).bind fun missing => ?_
  split
  · exact isSilent_ok o
  split
  · exact isSilent_ofExcept _
  · exact (isSilent_ofExcept _).bind fun _ => isSilent_refuse rfl

/-- Writing to a file writes nothing to the standard stream. -/
theorem isSilent_deliver_file (debug : Bool) (workspace : Workspace) (path text : String) :
    (deliver debug workspace (some path) text).IsSilent :=
  (isSilent_ofExcept _).bind fun _ =>
    (isSilent_say (out_debugLine debug _)).bind fun _ => isSilent_ok _

/-- Without a file the last step cannot stop, and with one it writes nothing to the standard
stream. -/
theorem stopsSilently_deliver (debug : Bool) (workspace : Workspace) (output : Option String)
    (text : String) : (deliver debug workspace output text).StopsSilently := by
  cases output with
  | none => exact fun _ hstop => nomatch hstop
  | some path => exact (isSilent_deliver_file debug workspace path text).stopsSilently

/-- Nothing is written to the standard stream before everything else has gone well. Only the last
step writes there, and everything before it is silent. -/
theorem stopsSilently_compile (debug : Bool) (workspace : Workspace) (format : Format)
    (names : List String) (output : Option String) (loaded : Object) :
    (compile debug workspace format names output loaded).StopsSilently := by
  rw [compile_eq]
  refine .bind (isSilent_selectJobs loaded names) fun workflow => ?_
  refine .bind (isSilent_contents workflow) fun _ => ?_
  refine .bind (isSilent_say (out_debugLine debug _)) fun _ => ?_
  exact .bind (isSilent_ofExcept _) fun text => stopsSilently_deliver debug workspace output text

/-- The last step ends well exactly if the file can be written, and then it leaves the files that
writing leaves. -/
theorem result_deliver_file_eq_ok_iff {path : String} {after : Workspace} :
    (deliver debug workspace (some path) text).result = .ok after ↔
      workspace.write (Path.ofText path) (.text (text ++ "\n")) = .ok after := by
  show (Session.ofExcept _ >>= _).result = .ok after ↔ _
  cases workspace.write (Path.ofText path) (.text (text ++ "\n")) with
  | ok after' =>
    show Except.ok after' = Except.ok after ↔ _
    rw [Except.ok.injEq, Except.ok.injEq]
  | error failure => exact iff_of_false (fun h => nomatch h) (fun h => nomatch h)

/-- Whether a file can be written does not depend on what is written. -/
theorem exists_write {path : Path} {content : FileContent} {after : Workspace}
    (h : workspace.write path content = .ok after) (other : FileContent) :
    ∃ after', workspace.write path other = .ok after' := by
  unfold FileTree.write at h ⊢
  split at h
  · cases h
  · split at h
    · cases h
    · rename_i hdirectory
      exact ⟨_, if_neg hdirectory⟩

/-- Whether a text can be delivered does not depend on the text. So if all jobs could be delivered,
any of them can. -/
theorem exists_deliver {after : Workspace}
    (h : (deliver debug workspace output text).result = .ok after) (other : String) :
    ∃ after', (deliver debug workspace output other).result = .ok after' := by
  cases output with
  | none => exact ⟨workspace, rfl⟩
  | some path =>
    simp only [result_deliver_file_eq_ok_iff] at h ⊢
    exact exists_write h _

/-- A delivery that ends well delivers the text: as it is to a file, without control sequences to
the standard stream. -/
theorem delivers_of_deliver {after : Workspace}
    (h : (deliver debug workspace output text).result = .ok after) :
    Delivers workspace output (shown output text)
      (outcome workspace (deliver debug workspace output text)) := by
  cases output with
  | none => exact ⟨rfl, rfl⟩
  | some path =>
    have hsilent := isSilent_deliver_file debug workspace path text
    unfold outcome
    rw [h]
    have hwrite := result_deliver_file_eq_ok_iff.mp h
    exact ⟨hsilent, hwrite, FileTree.contents?_write hwrite⟩

/-! ## Choosing jobs -/

/-- The complaint about names that no job has. -/
def unknownJobs (w : Workflow) (missing : List String) : Report :=
  .error "Unknown job"
    ("Job(s) not in workflow '" ++ w.name.display ++ "': " ++ ", ".intercalate missing)
    ["Known jobs: " ++ ", ".intercalate w.jobs.keys] ""

/-- A workflow without anything foreign in it has its name and its jobs, under texts. -/
theorem contents_workflow (w : Workflow) : contents (.workflow w) =
    Session.ok (w.name, w.jobs.entries.map fun e => (.text e.1, .job e.2)) := rfl

theorem joinedTexts_texts (position : Nat) (texts : List String) :
    Value.joinedTexts position (texts.map .text) = .ok texts := by
  induction texts generalizing position with
  | nil => rfl
  | cons text rest ih =>
    rw [List.map_cons, Value.joinedTexts, ih]
    rfl

/-- Of a workflow everything that is looked at is there. -/
theorem selectJobs_workflow (w : Workflow) (names : List String) :
    selectJobs (.workflow w) names =
      if names.isEmpty then Session.ok (.workflow w)
      else if (w.missingJobs names).isEmpty then Session.ok (.workflow (w.restrict names))
      else Session.refuse (unknownJobs w (w.missingJobs names)) := by
  have hknown : Value.joinedTexts 0 ((w.jobs.entries.map fun e => (.text e.1, .job e.2)).map
      (Prod.fst : Value × Object → Value)) = .ok w.jobs.keys := by
    rw [List.map_map, OrderedMap.keys, ← joinedTexts_texts 0, List.map_map]
    rfl
  unfold selectJobs
  -- the name, the jobs and the missing names, one after the other
  rw [contents_workflow, ok_bind_eq]
  dsimp only
  rw [hknown, Object.missingJobs, Session.ofExcept, ok_bind_eq, Session.ofExcept, ok_bind_eq]
  rfl

/-- If all names are known, the jobs of these names are chosen. -/
theorem selectJobs_of_known (h : w.missingJobs names = []) :
    selectJobs (.workflow w) names = Session.ok (.workflow (w.select names)) := by
  rw [selectJobs_workflow, h, Workflow.select]
  cases names <;> rfl

/-- If some names are unknown, the session ends with a complaint about exactly these, in the order
in which they were given. -/
theorem selectJobs_of_unknown (h : w.missingJobs names ≠ []) :
    selectJobs (.workflow w) names = Session.refuse (unknownJobs w (w.missingJobs names)) := by
  have hne : names ≠ [] := by
    rintro rfl
    exact h rfl
  rw [selectJobs_workflow, if_neg (by simpa using hne), if_neg (by simpa using h)]

/-! ## Runs -/

/-- If all names are known, what remains is to emit the jobs that are asked for. The debug line
before it is not looked at. -/
theorem compile_of_known (debug : Bool) (workspace : Workspace) (format : Format)
    (output : Option String) (h : w.missingJobs names = []) :
    ∃ message, compile debug workspace format names output (.workflow w) =
      (do
        Session.say (.debugLine debug message)
        emission debug workspace format output (.workflow (w.select names))) := by
  rw [compile_eq, selectJobs_of_known h, ok_bind_eq, contents_workflow, ok_bind_eq]
  exact ⟨_, rfl⟩

/-- An emission ends well exactly if the text can be made and delivered. -/
theorem exitCode_emission_eq_zero_iff {o : Object} :
    (outcome workspace (emission debug workspace format output o)).exitCode = 0 ↔
      ∃ text after, emit format o = .ok text
        ∧ (deliver debug workspace output text).result = .ok after := by
  rw [exitCode_outcome_eq_zero_iff]
  unfold emission
  cases emit format o with
  | ok text =>
    rw [Session.ofExcept, ok_bind_eq]
    simp
  | error failure =>
    refine iff_of_false ?_ ?_
    · rintro ⟨after, h⟩
      cases h
    · rintro ⟨text, after, h, -⟩
      cases h

/-- An emission that ends well delivers the text that was made. -/
theorem delivers_emission {o : Object} (h : emit format o = .ok text) {after : Workspace}
    (hdeliver : (deliver debug workspace output text).result = .ok after) :
    Delivers workspace output (shown output text)
      (outcome workspace (emission debug workspace format output o)) := by
  unfold emission
  rw [h, Session.ofExcept, ok_bind_eq]
  exact delivers_of_deliver hdeliver

/-- If a workflow can be emitted, so can each selection of its jobs, with the same parts. -/
theorem exists_assembles_emission
    (h : (outcome workspace (emission debug workspace format output (.workflow w))).exitCode = 0) :
    ∃ textOf, Assembles output w format textOf ∧ ∀ names v, w.IsSelection names v →
      (outcome workspace (emission debug workspace format output (.workflow v))).exitCode = 0
        ∧ Delivers workspace output (textOf (w.chosen names))
            (outcome workspace (emission debug workspace format output (.workflow v))) := by
  obtain ⟨whole, after, hwhole, hdeliver⟩ := exitCode_emission_eq_zero_iff.mp h
  obtain ⟨textOf, hassembles, hselections⟩ := exists_assembles output hwhole
  refine ⟨textOf, hassembles, fun names v hv => ?_⟩
  obtain ⟨text, htext, htextOf⟩ := hselections names v hv
  -- what is written is another text, but to the same place
  obtain ⟨after', hdeliver'⟩ := exists_deliver hdeliver text
  exact ⟨exitCode_emission_eq_zero_iff.mpr ⟨text, after', htext, hdeliver'⟩,
    htextOf ▸ delivers_emission htext hdeliver'⟩

/-- A run whose command line is understood is the session of the command, with the debug setting
reported first. -/
theorem run_eq {command : Command} (h : request workspace words = .ok (.run debug command)) :
    run settings workspace words = (outcome workspace (execute settings debug workspace command)).after
      { showsDebug := Request.debugOf? words } := by
  rw [run, respond, h]
  rfl

section Loaded

variable (hrequest : request workspace words =
    .ok (.run debug (.compile argument format names output)))
  (hload : (load settings debug workspace argument).result = .ok (.workflow w))

include hrequest hload

/-- A run with an unknown name: code 1, a complaint about the unknown names after whatever the
loading has reported, and no file changed. -/
theorem run_of_unknown (h : w.missingJobs names ≠ []) :
    ∃ before : Report, run settings workspace words =
      { exitCode := 1, report := before ++ unknownJobs w (w.missingJobs names),
        workspace := workspace } := by
  have hexecute : outcome workspace
      (execute settings debug workspace (.compile argument format names output)) =
        (outcome workspace (Session.refuse (unknownJobs w (w.missingJobs names)))).after
          (load settings debug workspace argument).report := by
    show outcome workspace (load settings debug workspace argument >>= _) = _
    rw [outcome_bind hload, compile_eq, selectJobs_of_unknown h]
    rfl
  rw [run_eq hrequest, hexecute, Outcome.after_after]
  exact ⟨_, rfl⟩

/-- A run whose names are all known is the emission of the jobs that are asked for, and what is
reported before it is not on the standard stream. -/
theorem run_of_known (h : w.missingJobs names = []) :
    ∃ before : Report, before.out = [] ∧ run settings workspace words =
      (outcome workspace (emission debug workspace format output (.workflow (w.select names)))).after
        before := by
  obtain ⟨message, hcompile⟩ := compile_of_known debug workspace format output h
  have hexecute : outcome workspace
      (execute settings debug workspace (.compile argument format names output)) =
        (outcome workspace (emission debug workspace format output
          (.workflow (w.select names)))).after
          ((load settings debug workspace argument).report ++ .debugLine debug message) := by
    show outcome workspace (load settings debug workspace argument >>= _) = _
    rw [outcome_bind hload, hcompile]
    have hsay : (Session.say (.debugLine debug message)).result = .ok () := rfl
    rw [outcome_bind hsay, Outcome.after_after]
    rfl
  refine ⟨_, ?_, (run_eq hrequest).trans (hexecute ▸ Outcome.after_after _ _ _)⟩
  show [] ++ ((load settings debug workspace argument).report.out ++ _) = []
  rw [isSilent_load, out_debugLine]
  rfl

end Loaded

/-! ## Runs of `compile` -/

/-- The words name the command to compile, whatever follows it. -/
def IsCompileLine (words : List String) : Prop :=
  ∃ general rest, Arguments.scan Request.generalOptions false words = .ok general
    ∧ general.words = "compile" :: rest

/-- What is read after the name `compile` is a command to compile, if it can be read at all. -/
theorem exists_compile_of_commandOf {rest : List String} {command : Command}
    (h : Request.commandOf "compile" rest = .ok (some command)) :
    ∃ argument format names output, command = .compile argument format names output := by
  obtain ⟨arguments, -, h⟩ := Success.bind_eq_ok.mp h
  split at h
  · cases h
  · obtain ⟨command', hcommand, h⟩ := Success.bind_eq_ok.mp h
    obtain ⟨⟨format, output⟩, -, hcommand⟩ := Success.bind_eq_ok.mp hcommand
    cases hcommand
    split at h
    · cases h
      exact ⟨_, _, _, _, rfl⟩
    · cases h

/-- A line that names the command to compile asks for no other command, whatever follows the name
and whatever options stand before it. -/
theorem IsCompileLine.exists_compile (hwords : IsCompileLine words) {command : Command}
    (h : request workspace words = .ok (.run debug command)) :
    ∃ argument format names output, command = .compile argument format names output := by
  obtain ⟨general, rest, hscan, hcompile⟩ := hwords
  have hread : Request.ofWords words = .ok (.run debug command) := by
    obtain ⟨request, hrequest, h⟩ := Success.bind_eq_ok.mp h
    cases request with
    | help => cases h
    | run debug' command' =>
      obtain ⟨-, -, h⟩ := Success.bind_eq_ok.mp h
      cases h
      exact hrequest
  -- the name of the command says which one is read
  unfold Request.ofWords at hread
  rw [hscan] at hread
  obtain ⟨general', hgeneral, hread⟩ := Success.bind_eq_ok.mp hread
  cases hgeneral
  split at hread
  · cases hread
  rw [hcompile] at hread
  obtain ⟨command?, hcommand, hread⟩ := Success.bind_eq_ok.mp hread
  cases command? with
  | none => cases hread
  | some command' =>
    cases hread
    exact exists_compile_of_commandOf hcommand

/-- A session that stops silently and does not end well leaves the standard stream empty and the
files as they were. -/
theorem failed_outcome {session : Session Workspace} (hstops : session.StopsSilently)
    (h : (outcome workspace session).exitCode ≠ 0) :
    (outcome workspace session).report.out = [] ∧ (outcome workspace session).workspace = workspace := by
  unfold outcome at h ⊢
  cases hresult : session.result with
  | ok after =>
    rw [hresult] at h
    exact absurd rfl h
  | error stop => cases stop <;> exact ⟨hstops _ hresult, rfl⟩

/-- A run that fails has written nothing to the standard stream and no file. -/
theorem silent_of_failed (hwords : IsCompileLine words)
    (h : (run settings workspace words).exitCode ≠ 0) :
    (run settings workspace words).report.out = []
      ∧ (run settings workspace words).workspace = workspace := by
  cases hrequest : request workspace words with
  | error refusal =>
    cases refusal with
    | usage e => exact (run_of_usageError hrequest).2
    | failure failure =>
      unfold run respond
      rw [hrequest]
      exact ⟨rfl, rfl⟩
  | ok req =>
    cases req with
    -- help is no failure
    | help =>
      unfold run respond at h
      rw [hrequest] at h
      exact absurd rfl h
    | run debug command =>
      obtain ⟨argument, format, names, output, rfl⟩ := hwords.exists_compile hrequest
      -- loading writes nothing, and compiling writes only what it has in full
      have hstops : (execute settings debug workspace
          (.compile argument format names output)).StopsSilently :=
        .bind (isSilent_load settings debug workspace argument) fun loaded =>
          stopsSilently_compile debug workspace format names output loaded
      rw [run_eq hrequest] at h ⊢
      exact failed_outcome hstops h

/-- How a run goes that compiles the jobs of some names. Names that no job has are all complained
about. If there are none, the jobs that are asked for are emitted, and this succeeds whenever all
jobs can be emitted: then each job has the same part in both texts. -/
structure CompilesSelection (settings : Settings) (workspace : Workspace) (debug : Bool)
    (argument : Option String) (format : Format) (names : List String) (output : Option String)
    (w : Workflow) (result : Outcome) : Prop where
  unknown : ∀ missing, missing = names.filter (fun name => name ∉ w.jobs.keys) → missing ≠ [] →
    result.exitCode = 1 ∧ result.escaped = none
      ∧ ∃ before : Report, result.report = before ++ unknownJobs w missing
  known : (∀ name ∈ names, name ∈ w.jobs.keys) → ∃ v, w.IsSelection names v
    ∧ (result.exitCode = 0 →
        ∃ text, emit format (.workflow v) = .ok text
          ∧ Delivers workspace output (shown output text) result)
    ∧ ∀ words, request workspace words = .ok (.run debug (.compile argument format [] output)) →
        (run settings workspace words).exitCode = 0 →
        result.exitCode = 0 ∧ ∃ textOf, Assembles output w format textOf
          ∧ Delivers workspace output (textOf w.jobs.keys) (run settings workspace words)
          ∧ Delivers workspace output (textOf (w.chosen names)) result

/-- A directory with a workflow file. -/
def relayWorkspace : Workspace where
  here := ["project"]
  files := OrderedMap.ofList
    [(["project", "ci.py"], .program fun _ => Traced.ok
      (OrderedMap.ofList [("WORKFLOW", .object (.workflow EnvTransfer.relayWorkflow))]))]

/-- The command line that asks for the scripts of some jobs. -/
def relayWords (names : List String) : List String :=
  ["compile", "--workflow", "ci.py", "--format", "sh"] ++ names.flatMap fun name => ["--job", name]

end CommandLine

end ShellFlow

import ShellFlow.Proofs.InputType.CheckLines
import ShellFlow.Proofs.Shell.Templates
import ShellFlow.Proofs.Transfer.Jobs

/-!
# The scripts of the env transfer

The scripts that write and read env outputs are templates around the names of jobs. The name of a job
goes into three kinds of places: sanitized into a variable, as part of a file name into words, and as
it is into messages. Words are put in quotes and messages are not, so a name is more than text where
a character of it is special in double quotes. The lines that append a file to the carry channel are
indented after the word is in them, so a newline in a name gets blanks behind it there.

* **`exportTemplate`**, **`importTemplate`** — the templates; the variable of an env output is part of
  the code.
* **`exportStep_run`**, **`importStep_run`** — the scripts are made from them.
* **`reads_exportTemplate`**, **`reads_importTemplate`** — they are read from start to end without the
  name.
* **`IsInert`** — the names that are nothing but text in the scripts.
* **`transferSteps_roles`** — what is read in the scripts of all jobs.
-/

namespace ShellFlow.EnvTransfer

open Script Shell Text

/-! ## Templates -/

/-- The command that writes an env output, up to the file; `stem` is the sanitized name of the
job. -/
def writeCommand (stem output : String) : String :=
  "  " ++ CarryChannel.exportLine ("JOB_OUTPUT_" ++ stem ++ "_" ++ sanitize output) "\"$_value\"" ""

/-- The lines that find the value of an env output. They do not name the job. -/
def searchLines (output : String) (searched : List String) : List String :=
  (exportOutput "" output searched).take 16

/-- The template of the lines for an env output. -/
def outputTemplate (stem output : String) (searched : List String) : List Part :=
  codeLines (searchLines output searched) ++ wordLine (writeCommand stem output) outputFile ""
    ++ codeLines ["fi"]

/-- The template of the script that writes the env outputs of a job. -/
def exportTemplate (transfer : EnvTransfer) (job : Job) (stem : String) : List Part :=
  messageLine "echo \"Exporting env outputs for job " '.' "..\""
    ++ codeLines (["", "# values set by earlier steps live in the carry channel"]
      ++ transfer.carry.source ++ [""])
    ++ wordLine ": > " outputFile ""
    ++ job.envOutputs.flatMap (fun output =>
      outputTemplate stem output (transfer.searchOrder job output))
    ++ messageLine "echo \"Env outputs exported to .env-outputs-" '"' ""

/-- The file of a job's env outputs, as it is named in the lines that were indented. -/
def indentedFile (job : String) : String := indentText 2 (outputFile job)

/-- The template of the lines that read the env outputs of one producer. -/
def importTemplate (transfer : EnvTransfer) : List Part :=
  wordLine "if [ -f " outputFile " ]; then"
    ++ messageLine "  echo \"  Sourcing .env-outputs-" '"' ""
    ++ codeLines ["  # shellcheck disable=SC1090"]
    ++ wordLine "  source " outputFile ""
    ++ codeLines ["  if " ++ transfer.carry.guard ++ "; then"]
    ++ wordLine "    cat " indentedFile (" >> " ++ transfer.carry.ref)
    ++ codeLines ["  fi", "fi"]

/-! ## The scripts are made from the templates

The program puts the scripts together as lists of lines. A template has the same text, in parts that
say where the name of a job stands. -/

/-- The file comes last in the command. -/
theorem exportLine_append (var value file : String) :
    CarryChannel.exportLine var value file = CarryChannel.exportLine var value "" ++ file := by
  unfold CarryChannel.exportLine
  rw [String.append_empty]

/-- The lines that export one output, as a template with a place for the name of the job. -/
theorem charsOf_outputTemplate (name output : String) (searched : List String) :
    charsOf name (outputTemplate (sanitize name) output searched) =
      charsOfLines (exportOutput name output searched) := by
  have hwrite : writeCommand (sanitize name) output ++ quote (outputFile name) ++ "" =
      "  " ++ CarryChannel.exportLine (jobOutputVar name output) "\"$_value\""
        (quote (outputFile name)) := by
    rw [exportLine_append, ← String.append_assoc, String.append_empty, writeCommand, jobOutputVar]
  have hlines : exportOutput name output searched =
      searchLines output searched
        ++ ["  " ++ CarryChannel.exportLine (jobOutputVar name output) "\"$_value\""
          (quote (outputFile name))] ++ ["fi"] := rfl
  rw [hlines, outputTemplate, charsOf_append, charsOf_append, charsOfLines_append,
    charsOfLines_append, charsOf_codeLines, charsOf_codeLines, charsOf_wordLine, hwrite]

theorem charsOf_exportOutputs (transfer : EnvTransfer) (job : Job) (name : String)
    (outputs : List String) :
    charsOf name (outputs.flatMap fun output =>
        outputTemplate (sanitize name) output (transfer.searchOrder job output)) =
      charsOfLines (outputs.flatMap fun output =>
        exportOutput name output (transfer.searchOrder job output)) := by
  induction outputs with
  | nil => rfl
  | cons output rest ih =>
    rw [List.flatMap_cons, List.flatMap_cons, charsOf_append, charsOfLines_append,
      charsOf_outputTemplate, ih]

/-- **The script of the export step is the text of its template** with the name of the job filled
in. -/
theorem exportStep_run (transfer : EnvTransfer) (name : String) (job : Job) :
    ∃ script : String, (transfer.exportStep name job).run = .text script
      ∧ script.toList = charsOf name (exportTemplate transfer job (sanitize name)) := by
  refine ⟨_, rfl, ?_⟩
  have hfirst : "echo \"Exporting env outputs for job " ++ name ++ String.singleton '.' ++ "..\"" =
      "echo \"Exporting env outputs for job " ++ name ++ "...\"" := String.append_assoc
  have hlast : "echo \"Env outputs exported to .env-outputs-" ++ name ++ String.singleton '"' ++ "" =
      "echo \"Env outputs exported to " ++ outputFile name ++ "\"" := by
    rw [outputFile, ← String.append_assoc, String.append_empty]
    rfl
  have hempty : ": > " ++ quote (outputFile name) ++ "" = ": > " ++ quote (outputFile name) :=
    String.append_empty
  rw [exportTemplate, charsOf_append, charsOf_append, charsOf_append, charsOf_append,
    charsOf_codeLines, charsOf_exportOutputs, charsOf_wordLine, charsOf_messageLine,
    charsOf_messageLine, hfirst, hempty, hlast, ← charsOfLines_append, ← charsOfLines_append,
    ← charsOfLines_append, ← charsOfLines_append, ← toList_joinLines_end]
  simp only [List.flatMap_def, List.append_assoc, List.cons_append, List.nil_append]

/-! ### Indented lines -/

/-- The lines that append a file have no blanks at their ends, so indenting them is putting a margin
in front. -/
theorem isTrimmed_appendFile (carry : CarryChannel) (file : String) :
    ∀ line ∈ (carry.appendFile file).map String.toList, IsTrimmed line := by
  have hopen : IsTrimmed "if ".toList := ⟨by decide, by decide, by decide⟩
  have hthen : IsTrimmed "; then".toList := ⟨by decide, by decide, by decide⟩
  have hcat : IsTrimmed "  cat ".toList := ⟨by decide, by decide, by decide⟩
  have hmark : IsTrimmed "\"".toList := ⟨by decide, by decide, by decide⟩
  have hfi : IsTrimmed "fi".toList := ⟨by decide, by decide, by decide⟩
  have happend := hcat.append hmark (file ++ " >> " ++ "\"$" ++ carry.var).toList
  simp only [String.toList_append, ← List.append_assoc] at happend
  simp only [CarryChannel.appendFile, CarryChannel.ref, List.map_cons, List.map_nil,
    List.forall_mem_cons, String.toList_append, ← List.append_assoc]
  exact ⟨hopen.append hthen _, happend, hfi, List.forall_mem_nil _⟩

/-- The lines that append a file are indented around the word for it, and the word with them. -/
theorem joinLines_indentLines_appendFile {carry : CarryChannel} (h : '\n' ∉ carry.var.toList)
    (s : String) :
    joinLines (indentLines "  " (splitNewlines (joinLines (carry.appendFile (quote s))))) =
      joinLines ["  if " ++ carry.guard ++ "; then",
        "    cat " ++ quote (indentText 2 s) ++ " >> " ++ carry.ref, "  fi"] := by
  have htrimmed := isTrimmed_appendFile carry (quote s)
  have hne : (carry.appendFile (quote s)).map String.toList ≠ [] := List.cons_ne_nil _ _
  have hjoin : (joinLines (carry.appendFile (quote s))).toList =
      ['\n'].intercalate ((carry.appendFile (quote s)).map String.toList) :=
    String.toList_intercalate
  have hmargin : "  ".toList = List.replicate 2 ' ' := rfl
  -- of the three lines only the one with the name can have a newline
  have hguard : indentAfter "  ".toList ("if " ++ carry.guard ++ "; then").toList =
      ("if " ++ carry.guard ++ "; then").toList :=
    indentAfter_of_not_mem (by simp [CarryChannel.guard, h])
  have hcat : indentAfter "  ".toList ("  cat " ++ quote s ++ " >> " ++ carry.ref).toList =
      ("  cat " ++ quote (indentText 2 s) ++ " >> " ++ carry.ref).toList := by
    have hback : '\n' ∉ (" >> " ++ carry.ref).toList := by simp [CarryChannel.ref, h]
    have hfront : '\n' ∉ "  cat ".toList := by decide
    have hword : indentAfter "  ".toList (quote s).toList = (quote (indentText 2 s)).toList := by
      rw [hmargin, ← InputType.indentText_quote, indentText, String.toList_ofList]
    have hparts : ∀ word : String, ("  cat " ++ word ++ " >> " ++ carry.ref).toList =
        "  cat ".toList ++ word.toList ++ (" >> " ++ carry.ref).toList := fun word => by
      rw [String.append_assoc, String.toList_append, String.toList_append]
    rw [hparts, hparts, indentAfter_between hfront hback, hword]
  have hfi : indentAfter "  ".toList "fi".toList = "fi".toList := by decide
  rw [← String.toList_inj, toList_indentLines (hjoin ▸ IsTrimmed.intercalate hne htrimmed), hjoin,
    indentAfter_lines hne htrimmed, joinLines, String.toList_intercalate]
  refine congrArg (['\n'].intercalate ·) ?_
  simp only [CarryChannel.appendFile, List.map_cons, List.map_nil, hguard, hcat, hfi]
  simp

/-- The lines that import from one producer, as a template with places for its name. The variable of
the channel has no newline in its name, so the lines that append the file are still the same lines
when they are indented. -/
theorem charsOf_importTemplate {transfer : EnvTransfer}
    (h : '\n' ∉ transfer.carry.var.toList) (producer : String) :
    charsOf producer (importTemplate transfer) =
      charsOfLines (transfer.importOutputs producer) := by
  have hmessage : "  echo \"  Sourcing .env-outputs-" ++ producer ++ String.singleton '"' ++ "" =
      "  echo \"  Sourcing " ++ outputFile producer ++ "\"" := by
    rw [outputFile, ← String.append_assoc, String.append_empty]
    rfl
  have hsource : "  source " ++ quote (outputFile producer) ++ "" =
      "  source " ++ quote (outputFile producer) := String.append_empty
  have hcat : "    cat " ++ quote (indentedFile producer) ++ (" >> " ++ transfer.carry.ref) =
      "    cat " ++ quote (indentText 2 (outputFile producer)) ++ " >> " ++ transfer.carry.ref :=
    String.append_assoc.symm
  have hindented := charsOfLines_congr (by simp [indentLines, splitNewlines, cutAtNewlines_ne_nil])
    (List.cons_ne_nil _ _) (joinLines_indentLines_appendFile h (outputFile producer))
  rw [importTemplate, charsOf_append, charsOf_append, charsOf_append, charsOf_append,
    charsOf_append, charsOf_append, charsOf_codeLines, charsOf_codeLines, charsOf_codeLines,
    charsOf_wordLine, charsOf_wordLine, charsOf_wordLine, charsOf_messageLine, hmessage, hsource,
    hcat, importOutputs, charsOfLines_append, charsOfLines_append, hindented]
  simp only [← charsOfLines_append]
  rfl

/-- The line above the lines for the producers. -/
def importFront : String := "echo \"Importing env outputs from dependencies...\"\n"

/-- The line below the lines for the producers. -/
def importBack : String := "echo \"Env outputs imported\"\n"

/-- **The script of the import step is its fixed front, the template once for each producer, and its
fixed back.** -/
theorem importStep_run {transfer : EnvTransfer} (h : '\n' ∉ transfer.carry.var.toList)
    (producers : List String) :
    ∃ script : String, (transfer.importStep producers).run = .text script
      ∧ script.toList = importFront.toList
        ++ producers.flatMap (charsOf · (importTemplate transfer)) ++ importBack.toList := by
  refine ⟨_, rfl, ?_⟩
  have hproducers : producers.flatMap (charsOf · (importTemplate transfer)) =
      charsOfLines (producers.flatMap transfer.importOutputs) := by
    rw [charsOfLines, List.flatMap_assoc]
    exact congrArg (producers.flatMap ·) (funext fun producer => charsOf_importTemplate h producer)
  have hfront : importFront.toList =
      charsOfLines ["echo \"Importing env outputs from dependencies...\""] := rfl
  have hback : importBack.toList = charsOfLines ["echo \"Env outputs imported\""] := rfl
  rw [hproducers, hfront, hback, ← charsOfLines_append, ← charsOfLines_append,
    ← toList_joinLines_end]
  simp only [List.append_assoc, List.cons_append, List.nil_append]

/-! ## The templates are read without the name

Every quote and every substitution that a template opens is closed by it again, so it is read from
the beginning of a line to the beginning of a line. -/

/-- An expansion in braces of a variable that may be not set. -/
theorem readsText_guard {carry : CarryChannel} (h : isIdentifier carry.var = true) :
    ReadsText .start carry.guard ⟨.outside false, []⟩ := by
  have hopen : ReadsText .start "[ -n \"$\x7b" ⟨.inBraces true, []⟩ := ⟨_, rfl⟩
  exact (hopen.append (readsText_of_isIdentifier rfl [] h)).append ⟨_, rfl⟩

/-- The variable of the channel in double quotes is read as one expansion. -/
theorem readsText_ref {carry : CarryChannel} (h : isIdentifier carry.var = true) :
    ReadsText .start carry.ref ⟨.outside false, []⟩ := by
  have hopen : ReadsText .start "\"$" ⟨.afterDollar true, []⟩ := ⟨_, rfl⟩
  exact (hopen.append (readsText_afterDollar true [] h)).append ⟨_, rfl⟩

/-- The lines that read the file of the channel can each be read alone. -/
theorem readsAlone_source {carry : CarryChannel} (h : isIdentifier carry.var = true) :
    ∀ line ∈ carry.source, ReadsAlone line := by
  have hif : ReadsText .start "if " .start := ⟨_, rfl⟩
  have hfile : ReadsText ⟨.outside false, []⟩ " && [ -f " .start := ⟨_, rfl⟩
  have hthen : ReadsText ⟨.outside false, []⟩ " ]; then" ⟨.outside false, []⟩ := ⟨_, rfl⟩
  have hnewline : ReadsText ⟨.outside false, []⟩ "\n" .start := ⟨_, rfl⟩
  have hsource : ReadsText .start "  source " .start := ⟨_, rfl⟩
  simp only [CarryChannel.source, List.forall_mem_cons]
  exact ⟨((((hif.append (readsText_guard h)).append hfile).append (readsText_ref h)).append
    hthen).append hnewline, ⟨_, rfl⟩, (hsource.append (readsText_ref h)).append hnewline, ⟨_, rfl⟩,
    List.forall_mem_nil _⟩

/-- The stems of the search order are sanitized, so they have characters of names only. -/
theorem isIdentChar_of_mem_searchOrder {transfer : EnvTransfer} {job : Job} {output stem : String}
    (h : stem ∈ transfer.searchOrder job output) : ∀ c ∈ stem.toList, isIdentChar c = true := by
  rw [searchOrder, searchAfter, List.mem_eraseDups, List.mem_append, List.mem_filterMap,
    List.mem_map] at h
  rcases h with ⟨step, -, hstem⟩ | ⟨step, -, rfl⟩
  · obtain ⟨name, -, rfl⟩ := Option.map_eq_some_iff.mp hstem
    exact isIdentChar_of_mem_sanitize name
  · exact isIdentChar_of_mem_sanitize step

/-- The name of an output is text in double quotes. -/
theorem readsText_inDouble_of_isShellName {output : String} (h : isShellName output = true) :
    ReadsText ⟨.inDouble, []⟩ output ⟨.inDouble, []⟩ := by
  rcases (isShellName_iff output).mp h with hname | ⟨name, hname, rfl⟩
  · exact readsText_of_isIdentifier rfl [] hname
  · exact (readsText_of_isIdentifier rfl [] hname).append ⟨_, rfl⟩

/-- A newline behind the name of an output ends the comment that it stands in, and no more. -/
theorem readsAlone_comment_of_isShellName {output : String} (h : isShellName output = true) :
    ReadsAlone ("# " ++ output) := by
  have hopen : ReadsText .start "# " ⟨.inComment, []⟩ := ⟨_, rfl⟩
  have hclose : ReadsText ⟨.inComment, []⟩ "\n" .start := ⟨_, rfl⟩
  rcases (isShellName_iff output).mp h with hname | ⟨name, hname, rfl⟩
  · exact (hopen.append (readsText_of_isIdentifier rfl [] hname)).append hclose
  · have hline := (readsText_of_isIdentifier rfl [] hname).append hclose
    exact (hopen.append hline).append ⟨_, rfl⟩

/-- The head of the loop over the stems is a line of plain words. -/
theorem readsAlone_for {searched : List String}
    (h : ∀ stem ∈ searched, ∀ c ∈ stem.toList, isIdentChar c = true) :
    ReadsAlone ("for _prefix in " ++ " ".intercalate searched ++ "; do") := by
  have hchars : ∀ c ∈ (" ".intercalate searched).toList, isIdentChar c = true ∨ c = ' ' := by
    rw [String.toList_intercalate]
    have hblank : ∀ c ∈ " ".toList, isIdentChar c = true ∨ c = ' ' := fun c hc =>
      Or.inr (List.mem_singleton.mp hc)
    refine forall_mem_intercalate hblank fun cs hcs c hc => ?_
    obtain ⟨stem, hstem, rfl⟩ := List.mem_map.mp hcs
    exact Or.inl (h stem hstem c hc)
  have hopen : ReadsText .start "for _prefix in " .start := ⟨_, rfl⟩
  obtain ⟨atEnd, hnames⟩ := @readsText_names [] _ hchars true
  have hclose : ReadsText ⟨.outside atEnd, []⟩ "; do" ⟨.outside false, []⟩ := by
    cases atEnd <;> exact ⟨_, rfl⟩
  exact ((hopen.append hnames).append hclose).append ⟨_, rfl⟩

/-- The lines that look a value up can each be read alone, if the output is a shell name and the
stems are made of name characters. -/
theorem readsAlone_searchLines {output : String} {searched : List String}
    (houtput : isShellName output = true)
    (hsearched : ∀ stem ∈ searched, ∀ c ∈ stem.toList, isIdentChar c = true) :
    ∀ line ∈ searchLines output searched, ReadsAlone line := by
  have hname := readsText_inDouble_of_isShellName houtput
  have hout : ∀ spot : Spot, spot.keepsNames = true →
      ReadsText ⟨spot, []⟩ (sanitize output) ⟨spot, []⟩ := fun _ hspot =>
    readsText_sanitize hspot [] output
  have hvarname : ReadsText .start "  _varname=\"STEP_OUTPUT_$\x7b_prefix\x7d_"
      ⟨.inDouble, []⟩ := ⟨_, rfl⟩
  have hfound : ReadsText .start "    echo \"  " ⟨.inDouble, []⟩ := ⟨_, rfl⟩
  have hfrom : ReadsText ⟨.inDouble, []⟩ "=$_value (from $_varname)\"" ⟨.outside false, []⟩ :=
    ⟨_, rfl⟩
  have hunset : ReadsText .start "if [ -z \"$_value\" ] && [ -n \"$\x7bOUTPUT_"
      ⟨.inBraces true, []⟩ := ⟨_, rfl⟩
  have hthen : ReadsText ⟨.inBraces true, []⟩ ":-\x7d\" ]; then" ⟨.outside false, []⟩ := ⟨_, rfl⟩
  have hvalue : ReadsText .start "  _value=\"$OUTPUT_" ⟨.inName true, []⟩ := ⟨_, rfl⟩
  have htaken : ReadsText .start "  echo \"  " ⟨.inDouble, []⟩ := ⟨_, rfl⟩
  have hvar : ReadsText ⟨.inDouble, []⟩ "=$_value (from OUTPUT_" ⟨.inDouble, []⟩ := ⟨_, rfl⟩
  have hmark : ReadsText ⟨.inDouble, []⟩ "\"" ⟨.outside false, []⟩ := ⟨_, rfl⟩
  have hmarkName : ReadsText ⟨.inName true, []⟩ "\"" ⟨.outside false, []⟩ := ⟨_, rfl⟩
  have hmarkEnd : ReadsText ⟨.inDouble, []⟩ ")\"" ⟨.outside false, []⟩ := ⟨_, rfl⟩
  have hnewline : ReadsText ⟨.outside false, []⟩ "\n" .start := ⟨_, rfl⟩
  simp only [searchLines, exportOutput, List.take_succ_cons, List.take_zero, List.forall_mem_cons]
  -- a line without the name of the output is read by evaluation, the others in parts
  refine ⟨readsAlone_comment_of_isShellName houtput, ⟨_, rfl⟩, readsAlone_for hsearched, ?_,
    ⟨_, rfl⟩, ⟨_, rfl⟩, ⟨_, rfl⟩, ?_, ⟨_, rfl⟩, ⟨_, rfl⟩, ⟨_, rfl⟩, ?_, ?_, ?_, ⟨_, rfl⟩, ⟨_, rfl⟩,
    List.forall_mem_nil _⟩
  · exact ((hvarname.append (hout .inDouble rfl)).append hmark).append hnewline
  · exact ((hfound.append hname).append hfrom).append hnewline
  · exact ((hunset.append (hout (.inBraces true) rfl)).append hthen).append hnewline
  · exact ((hvalue.append (hout (.inName true) rfl)).append hmarkName).append hnewline
  · exact ((((htaken.append hname).append hvar).append (hout .inDouble rfl)).append
      hmarkEnd).append hnewline

/-- The command that writes a value to the file is read from the beginning of a line to its end,
with the substitution in it closed again. -/
theorem readsText_writeCommand {stem : String}
    (h : ∀ c ∈ stem.toList, isIdentChar c = true) (output : String) :
    ReadsText .start (writeCommand stem output) .start := by
  have hopen : ReadsText .start "echo \"export " ⟨.inDouble, []⟩ := ⟨_, rfl⟩
  have hvar : ReadsText ⟨.inDouble, []⟩ "JOB_OUTPUT_" ⟨.inDouble, []⟩ := ⟨_, rfl⟩
  have hstem : ReadsText ⟨.inDouble, []⟩ stem ⟨.inDouble, []⟩ :=
    readsText_of_isIdentChar rfl [] h
  have hout : ReadsText ⟨.inDouble, []⟩ (sanitize output) ⟨.inDouble, []⟩ :=
    readsText_sanitize rfl [] output
  have hscore : ReadsText ⟨.inDouble, []⟩ "_" ⟨.inDouble, []⟩ := ⟨_, rfl⟩
  have hprintf : ReadsText ⟨.inDouble, []⟩ "=$(printf '%q' " ⟨.outside true, [true]⟩ := ⟨_, rfl⟩
  have hvalue : ReadsText ⟨.outside true, [true]⟩ "\"$_value\"" ⟨.outside false, [true]⟩ :=
    ⟨_, rfl⟩
  have hclose : ReadsText ⟨.outside false, [true]⟩ ")\" >> " .start := ⟨_, rfl⟩
  have hmargin : ReadsText .start "  " .start := ⟨_, rfl⟩
  exact hmargin.append
    (((((hopen.append (((hvar.append hstem).append hscore).append hout)).append hprintf).append
      hvalue).append hclose).append ⟨[], rfl⟩)

/-- The export of one output is read from line to line, with every quote and every substitution
closed at its end. -/
theorem reads_outputTemplate {stem output : String} {searched : List String}
    (hstem : ∀ c ∈ stem.toList, isIdentChar c = true) (houtput : isShellName output = true)
    (hsearched : ∀ name ∈ searched, ∀ c ∈ name.toList, isIdentChar c = true) :
    Reads .start (outputTemplate stem output searched) .start := by
  have hfind := reads_codeLines (readsAlone_searchLines houtput hsearched)
  have hwrite := reads_wordLine (readsText_writeCommand hstem output)
    (⟨_, rfl⟩ : ReadsText ⟨.outside false, []⟩ ("" ++ "\n") .start) outputFile
  have hfi : Reads .start (codeLines ["fi"]) .start := ⟨_, rfl⟩
  exact (hfind.append hwrite).append hfi

/-- The script of a job with declared env outputs is read from start to end without its name. -/
theorem reads_exportTemplate {transfer : EnvTransfer}
    (hvar : isIdentifier transfer.carry.var = true) {job : Job}
    (houtputs : ∀ output ∈ job.envOutputs, isShellName output = true) {stem : String}
    (hstem : ∀ c ∈ stem.toList, isIdentChar c = true) :
    Reads .start (exportTemplate transfer job stem) .start := by
  have hfirst : Reads .start (messageLine "echo \"Exporting env outputs for job " '.' "..\"")
      .start := ⟨_, rfl⟩
  have hsource : Reads .start (codeLines
      (["", "# values set by earlier steps live in the carry channel"] ++ transfer.carry.source
        ++ [""])) .start := by
    refine reads_codeLines fun line hline => ?_
    simp only [List.cons_append, List.nil_append, List.mem_cons, List.mem_append, List.not_mem_nil,
      or_false] at hline
    rcases hline with rfl | rfl | hline | rfl
    · exact ⟨_, rfl⟩
    · exact ⟨_, rfl⟩
    · exact readsAlone_source hvar line hline
    · exact ⟨_, rfl⟩
  have hempty : Reads .start (wordLine ": > " outputFile "") .start := ⟨_, rfl⟩
  have houts : Reads .start (job.envOutputs.flatMap fun output =>
      outputTemplate stem output (transfer.searchOrder job output)) .start :=
    reads_flatMap fun output houtput =>
      reads_outputTemplate hstem (houtputs output houtput) fun _ => isIdentChar_of_mem_searchOrder
  have hlast : Reads .start (messageLine "echo \"Env outputs exported to .env-outputs-" '"' "")
      .start := ⟨_, rfl⟩
  exact (((hfirst.append hsource).append hempty).append houts).append hlast

/-- So is the import from one producer, if the variable of the channel is an identifier. -/
theorem reads_importTemplate {transfer : EnvTransfer}
    (hvar : isIdentifier transfer.carry.var = true) :
    Reads .start (importTemplate transfer) .start := by
  have hopen : Reads .start (wordLine "if [ -f " outputFile " ]; then") .start := ⟨_, rfl⟩
  have hmessage : Reads .start (messageLine "  echo \"  Sourcing .env-outputs-" '"' "") .start :=
    ⟨_, rfl⟩
  have hcomment : Reads .start (codeLines ["  # shellcheck disable=SC1090"]) .start := ⟨_, rfl⟩
  have hsource : Reads .start (wordLine "  source " outputFile "") .start := ⟨_, rfl⟩
  have hguard : Reads .start (codeLines ["  if " ++ transfer.carry.guard ++ "; then"]) .start := by
    have hif : ReadsText .start "  if " .start := ⟨_, rfl⟩
    have hthen : ReadsText ⟨.outside false, []⟩ "; then" ⟨.outside false, []⟩ := ⟨_, rfl⟩
    exact reads_code (((hif.append (readsText_guard hvar)).append hthen).append ⟨_, rfl⟩)
  have hcat : Reads .start (wordLine "    cat " indentedFile (" >> " ++ transfer.carry.ref))
      .start := by
    have hopen : ReadsText .start "    cat " .start := ⟨_, rfl⟩
    have hto : ReadsText ⟨.outside false, []⟩ " >> " .start := ⟨_, rfl⟩
    exact reads_wordLine hopen ((hto.append (readsText_ref hvar)).append ⟨_, rfl⟩) indentedFile
  have hfi : Reads .start (codeLines ["  fi", "fi"]) .start := ⟨_, rfl⟩
  exact (((((hopen.append hmessage).append hcomment).append hsource).append hguard).append
    hcat).append hfi

/-! ## Names in the scripts

A name stands in quoted words, where nothing can go wrong, and in two messages in double quotes,
where it must be literal. -/

/-- True of a name that is text in double quotes, up to the mark that closes them. -/
def IsInert (name : String) : Prop := isLiteralBefore '"' name.toList = true

instance (name : String) : Decidable (IsInert name) := inferInstanceAs (Decidable (_ = true))

/-- The name of the job is nothing but text in the export step exactly if it is inert: the only
place where it is not quoted is a message in double quotes. -/
theorem isTextIn_exportTemplate (transfer : EnvTransfer) (job : Job) (stem name : String) :
    IsTextIn (exportTemplate transfer job stem) name ↔ IsInert name := by
  simp only [exportTemplate, outputTemplate, isTextIn_append, isTextIn_flatMap, isTextIn_codeLines,
    isTextIn_wordLine, isTextIn_messageLine, and_self, and_true, implies_true]
  exact ⟨And.right, fun h => ⟨isLiteralBefore_fullStop h, h⟩⟩

theorem isTextIn_importTemplate (transfer : EnvTransfer) (name : String) :
    IsTextIn (importTemplate transfer) name ↔ IsInert name := by
  simp [importTemplate, IsInert]

/-- The file is named once to empty it and once for each env output. -/
theorem textsOf_exportTemplate (transfer : EnvTransfer) (job : Job) (stem : String) :
    textsOf (exportTemplate transfer job stem) =
      List.replicate (1 + job.envOutputs.length) outputFile := by
  have houtputs : ∀ outputs : List String, (outputs.flatMap fun _ => [outputFile]) =
      List.replicate outputs.length outputFile := fun outputs => by
    rw [← List.map_eq_flatMap, List.map_const']
  simp [exportTemplate, outputTemplate, houtputs, List.replicate_add]

/-- The texts that the quoted words of an import stand for: the file where it is tested and read,
and the file as it is indented in the last of the lines. -/
theorem textsOf_importTemplate (transfer : EnvTransfer) :
    textsOf (importTemplate transfer) = [outputFile, outputFile, indentedFile] := by
  simp [importTemplate]

/-- Indenting changes the name of a file exactly if it has a newline in it, which is where that line
names another file. -/
theorem indentedFile_eq_iff (name : String) :
    indentedFile name = outputFile name ↔ '\n' ∉ name.toList := by
  have hmem : '\n' ∈ (outputFile name).toList ↔ '\n' ∈ name.toList := by
    simp [outputFile]
  rw [← hmem]
  constructor
  · intro hsame hnewline
    have hlt := length_lt_indentText hnewline (Nat.succ_pos 1)
    rw [← indentedFile, hsame] at hlt
    exact Nat.lt_irrefl _ hlt
  · exact fun hline => indentText_of_not_mem hline 2

/-! ## The scripts of all jobs -/

/-- **What the shell reads in the scripts of the env transfer.** Each script is made from a
template, in which the name of a job is part of the code as far as the variables of its env outputs
are named for it, sanitized. The template is read without the name, and the script is read like it,
with the name in words and as text of messages, exactly if the name is text in double quotes. A word
is read as the text that it stands for, whatever the name is. This is the file of the env outputs,
but where the producers' files are appended to the channel only if there is no newline in the
name. -/
theorem transferSteps_roles {transfer : EnvTransfer}
    (hvar : isIdentifier transfer.carry.var = true) :
    (∀ job : Job, (∀ output ∈ job.envOutputs, isShellName output = true) → ∀ name : String,
      ∃ (script : String) (readings : List Reading),
        (transfer.exportStep name job).run = .text script
        ∧ script.toList = charsOf name (exportTemplate transfer job (sanitize name))
        ∧ readTemplate .start (exportTemplate transfer job (sanitize name)) =
            some (readings, .start)
        ∧ textsOf (exportTemplate transfer job (sanitize name)) =
            List.replicate (1 + job.envOutputs.length) outputFile
        ∧ (roles? script = some (rolesOf name readings) ↔ IsInert name))
    ∧ (∀ producers : List String,
        ∃ (script : String) (front back : List Role) (readings : List Reading),
          (transfer.importStep producers).run = .text script
          ∧ script.toList = importFront.toList
              ++ producers.flatMap (charsOf · (importTemplate transfer)) ++ importBack.toList
          ∧ roles? importFront = some front ∧ roles? importBack = some back
          ∧ readTemplate .start (importTemplate transfer) = some (readings, .start)
          ∧ textsOf (importTemplate transfer) = [outputFile, outputFile, indentedFile]
          ∧ (roles? script = some (front ++ producers.flatMap (rolesOf · readings) ++ back) ↔
              ∀ producer ∈ producers, IsInert producer))
    ∧ (∀ name, indentedFile name = outputFile name ↔ '\n' ∉ name.toList)
    ∧ (∀ s, literal? (wordRoles s) = some s)
    ∧ ∀ name : String, (∀ c ∈ name.toList, isPlainInDouble c = true) → IsInert name := by
  have hline : '\n' ∉ transfer.carry.var.toList := fun hmem =>
    absurd (isIdentChar_of_mem_identifier hvar _ hmem) (by decide)
  refine ⟨fun job houtputs name => ?_, fun producers => ?_, indentedFile_eq_iff, literal?_wordRoles,
    fun name hname => isLiteralBefore_of_isPlainInDouble hname _⟩
  · obtain ⟨script, hrun, hscript⟩ := exportStep_run transfer name job
    obtain ⟨readings, hread⟩ :=
      reads_exportTemplate hvar houtputs (isIdentChar_of_mem_sanitize name)
    refine ⟨script, readings, hrun, hscript, hread, textsOf_exportTemplate transfer job _, ?_⟩
    rw [roles?_charsOf_iff hscript hread, isTextIn_exportTemplate]
  · obtain ⟨script, hrun, hscript⟩ := importStep_run hline producers
    obtain ⟨readings, hread⟩ := reads_importTemplate hvar
    refine ⟨script, _, _, readings, hrun, hscript, rfl, rfl, hread, textsOf_importTemplate transfer,
      ?_⟩
    rw [roles?_flatMap_charsOf_iff hscript rfl hread rfl]
    simp only [isTextIn_importTemplate]

/-- A name with blanks, a quote and a hash is text in the scripts, and one with a command in it is
not. One with a newline is text as well, but its file is named wrongly once. -/
theorem transferSteps_roles_names :
    isIdentifier (EnvTransfer.carry {}).var = true
    ∧ (∀ output ∈ (relayJob "build" []).envOutputs, isShellName output = true)
    ∧ (∃ (script : String) (readings : List Reading),
        (EnvTransfer.exportStep {} "it's #1" (relayJob "build" [])).run = .text script
        ∧ roles? script = some (rolesOf "it's #1" readings))
    ∧ (∃ (script : String) (readings : List Reading),
        (EnvTransfer.exportStep {} "$(id)" (relayJob "build" [])).run = .text script
        ∧ readTemplate .start (exportTemplate {} (relayJob "build" []) (sanitize "$(id)")) =
            some (readings, .start)
        ∧ roles? script ≠ some (rolesOf "$(id)" readings))
    ∧ (∃ (script : String) (front back : List Role) (readings : List Reading),
        (EnvTransfer.importStep {} ["it's #1", "a\nb"]).run = .text script
        ∧ roles? script =
            some (front ++ ["it's #1", "a\nb"].flatMap (rolesOf · readings) ++ back))
    ∧ indentedFile "a\nb" ≠ outputFile "a\nb" := by
  have hvar : isIdentifier (EnvTransfer.carry {}).var = true := by decide
  have houtputs : ∀ output ∈ (relayJob "build" []).envOutputs, isShellName output = true := by
    decide
  obtain ⟨hexport, himport, hindented, -, -⟩ := @transferSteps_roles {} hvar
  obtain ⟨script, readings, hrun, -, -, -, hroles⟩ := hexport _ houtputs "it's #1"
  obtain ⟨script', readings', hrun', -, hread', -, hroles'⟩ := hexport _ houtputs "$(id)"
  obtain ⟨script'', front, back, readings'', hrun'', -, -, -, -, -, hroles''⟩ :=
    himport ["it's #1", "a\nb"]
  refine ⟨hvar, houtputs, ⟨script, readings, hrun, hroles.mpr (by decide)⟩,
    ⟨script', readings', hrun', hread', fun h => ?_⟩,
    ⟨script'', front, back, readings'', hrun'', hroles''.mpr (by decide)⟩, fun h => ?_⟩
  · exact absurd (hroles'.mp h) (by decide)
  · exact absurd ((hindented "a\nb").mp h) (by decide)

end ShellFlow.EnvTransfer

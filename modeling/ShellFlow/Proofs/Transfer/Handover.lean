import Mathlib.Data.List.Nodup
import ShellFlow.Proofs.Transfer.Jobs

/-!
# The way of a value from job to job

A value leaves a job in the variable of a step and arrives in another job as the variable of a
reference. On its way five places name it: the export of the step, the script that writes the file,
the hidden artifact, the script that reads the file, and the reference. Each of them builds its name
or path again, and here they are tied to each other.

* **`searchOrder_of_declares`** — where the variables of declaring steps stand among those searched.
* **`importStep_hasLine`** — the line that reads the file of a producer.
* **`exportOutput_eq`** — the lines of an output, all of them.
* **`exportStep_writes`** — the step that empties the file and has these lines.
* **`apply_handover`** — the whole way, for every producer, output and job that needs it.
-/

namespace ShellFlow.EnvTransfer

/-- The script has the line. -/
def HasLine (script : Value) (line : String) : Prop :=
  ∃ before after, script = .text (Text.joinLines (before ++ line :: after))

/-- The lines that look for the value of an output. They go over the variables of the output in the
searched steps and stop at the first that is not empty; if all are empty, they take the variable that
the scripts of actions set. -/
def lookupLines (output : String) (searched : List String) : List String :=
  ["_value=\"\"",
   "for _prefix in " ++ " ".intercalate searched ++ "; do",
   "  _varname=\"STEP_OUTPUT_$\x7b_prefix\x7d_" ++ sanitize output ++ "\"",
   "  _val=\"$\x7b!_varname:-\x7d\"",
   "  if [ -n \"$_val\" ]; then",
   "    _value=\"$_val\"",
   "    echo \"  " ++ output ++ "=$_value (from $_varname)\"",
   "    break",
   "  fi",
   "done",
   "if [ -z \"$_value\" ] && [ -n \"$\x7bOUTPUT_" ++ sanitize output ++ ":-\x7d\" ]; then",
   "  _value=\"$OUTPUT_" ++ sanitize output ++ "\"",
   "  echo \"  " ++ output ++ "=$_value (from OUTPUT_" ++ sanitize output ++ ")\"",
   "fi"]

/-- The lines that append the value to the file, as an export of the variable, if one was found. -/
def appendLines (file var : String) : List String :=
  ["if [ -n \"$_value\" ]; then",
   "  echo \"export " ++ var ++ "=$(printf '%q' \"$_value\")\" >> " ++ file,
   "fi"]

/-- The script empties the file. Later it looks for the value of an output in the variables of the
searched steps, and appends what it has found to the file, as an export of the variable `var`. -/
def WritesOutput (script : Value) (file var output : String) (searched : List String) : Prop :=
  ∃ before between after, script = .text (Text.joinLines
    (before ++ [": > " ++ file] ++ between ++ lookupLines output searched ++ appendLines file var
      ++ after))

/-- The stem is that of a step that was made from an action with the output. -/
def IsDeclaring (job : Job) (output stem : String) : Prop :=
  ∃ step ∈ job.steps, ∃ info name, step.action = some info ∧ output ∈ info.outputs
    ∧ step.name = .text name ∧ stem = sanitize name

/-- Every compiled step that has the output exports it under a variable that is searched, before all
those that are a guess. -/
def FindsExports (job : Job) (output : String) (searched : List String) : Prop :=
  ∀ step ∈ job.steps, ∀ (action : Action) (invocation : Invocation) (carry : CarryChannel),
    action.compile invocation carry = .ok step → output ∈ action.outputs →
      ∃ name, step.name = .text name
        ∧ step.exports.get? output =
            some ("STEP_OUTPUT_" ++ sanitize name ++ "_" ++ sanitize output)
        ∧ sanitize name ∈ searched
        ∧ ∀ other ∈ searched, ¬ IsDeclaring job output other →
            FirstBefore searched (sanitize name) other

/-- The way of an output of the job `name` to a job that needs it. Primed are the jobs after the
transfer. -/
structure Handover (name output : String) (producer producer' consumer consumer' : Job) :
    Prop where
  /-- The artifact is among those that the consumer takes in addition, once. -/
  taken : ∃ artifacts : List String, consumer'.inputs = artifacts.map .text ++ consumer.inputs
    ∧ artifacts.count (outputArtifact name) = 1
  /-- The artifact is the file. -/
  made : producer'.outputs.get? (outputArtifact name) = some (.text (outputFile name))
  /-- The consumer begins with a step that reads the file. -/
  sourced : ∃ first, consumer'.steps.head? = some first
    ∧ HasLine first.run ("  source " ++ Shell.quote (outputFile name))
  /-- The producer ends with a step that writes into the file what the reference expands to. -/
  written : ∃ last var searched, producer'.steps.getLast? = some last
    ∧ "$\x7b" ++ var ++ "\x7d" = (Reference.jobOutput name output).expansion
    ∧ WritesOutput last.run (Shell.quote (outputFile name)) var output searched
    ∧ FindsExports producer output searched

/-! ## Names of the artifact -/

/-- The artifact of a producer is among those of the needed ones once, since different producers
have different artifacts. -/
theorem count_outputArtifact {needed : List String} (hnodup : needed.Nodup) {name : String}
    (hname : name ∈ needed) : (needed.map outputArtifact).count (outputArtifact name) = 1 := by
  have hartifacts : (needed.map outputArtifact).Nodup :=
    hnodup.map fun _ _ h => outputArtifact_injective h
  rw [hartifacts.count, if_pos (List.mem_map_of_mem hname)]

/-! ## The searched variables

The value of an output is looked for under several stems. Those of the steps that declare it are
certain, the others are guesses. -/

/-- The stem of a step that was made from an action with the output. -/
def declaredStem? (output : String) (step : Step) : Option String :=
  if declaresOutput output step then step.name.text?.map sanitize else none

/-- A step has a stem to be searched under exactly if it was made from an action with the output and
its name is a text. -/
theorem declaredStem?_eq_some_iff {output stem : String} {step : Step} :
    declaredStem? output step = some stem ↔
      ∃ info name, step.action = some info ∧ output ∈ info.outputs ∧ step.name = .text name
        ∧ stem = sanitize name := by
  unfold declaredStem? declaresOutput
  cases step.action with
  | none => simp
  | some info =>
    by_cases houtput : output ∈ info.outputs
    · simp [houtput, Value.text?_eq_some_iff, @eq_comm _ stem]
    · simp [houtput]

/-- The searched stems as one list without repetitions: those of the declaring steps from the last
to the first, then the guesses. -/
theorem searchOrder_eq (transfer : EnvTransfer) (job : Job) (output : String) :
    transfer.searchOrder job output =
      (job.steps.reverse.filterMap (declaredStem? output)
        ++ transfer.searchedSteps.map sanitize).eraseDups := by
  unfold searchOrder searchAfter
  rw [List.filterMap_filter]
  rfl

theorem mem_declared_iff {job : Job} {output stem : String} :
    stem ∈ job.steps.reverse.filterMap (declaredStem? output) ↔ IsDeclaring job output stem := by
  simp only [List.mem_filterMap, List.mem_reverse, declaredStem?_eq_some_iff]
  rfl

/-- The stem of a declaring step is searched, and before any that is of no such step. -/
theorem searchOrder_of_declares (transfer : EnvTransfer) {job : Job} {output stem : String}
    (h : IsDeclaring job output stem) :
    stem ∈ transfer.searchOrder job output
    ∧ ∀ other, ¬ IsDeclaring job output other →
        FirstBefore (transfer.searchOrder job output) stem other := by
  rw [searchOrder_eq]
  have hmem := mem_declared_iff.mpr h
  refine ⟨List.mem_eraseDups.mpr (List.mem_append_left _ hmem), fun other hother => ?_⟩
  exact firstBefore_eraseDups_iff.mpr
    (firstBefore_append hmem fun hdeclared => hother (mem_declared_iff.mp hdeclared))

/-- The stems of declaring steps are all searched, and before every other; so a guess is only tried
where no declaring step has written its variable. -/
theorem findsExports_searchOrder (transfer : EnvTransfer) (job : Job) (output : String) :
    FindsExports job output (transfer.searchOrder job output) := by
  intro step hstep action invocation carry hcompile houtput
  obtain ⟨c, rfl⟩ := Action.compile_eq_ok_iff.mp hcompile
  -- a step with an output has a text for its name
  obtain ⟨name, hname⟩ : ∃ name, c.step.name = .text name := by
    rcases Action.exportsFor_eq_ok c.exports_eq with ⟨hnone, -⟩ | ⟨name, hname, -⟩
    · rw [hnone] at houtput
      cases houtput
    · exact ⟨name, hname⟩
  have hexports : c.step.exports.get? output = some (stepOutputVar name output) := by
    rw [c.get?_exported hname, if_pos houtput]
  have hdeclaring : IsDeclaring job output (sanitize name) :=
    ⟨c.step, hstep, c.info, name, rfl, houtput, hname, rfl⟩
  obtain ⟨hmem, hbefore⟩ := searchOrder_of_declares transfer hdeclaring
  exact ⟨name, hname, hexports, hmem, fun other _ hother => hbefore other hother⟩

/-! ## The scripts -/

/-- The script of the import step reads the file of every needed producer, in a line of its own. -/
theorem importStep_hasLine (transfer : EnvTransfer) {needed : List String} {name : String}
    (h : name ∈ needed) :
    HasLine (transfer.importStep needed).run ("  source " ++ Shell.quote (outputFile name)) := by
  obtain ⟨front, rest, rfl⟩ := List.append_of_mem h
  unfold importStep HasLine
  simp only [List.flatMap_append, List.flatMap_cons]
  -- the line is the fourth of those that are written for the producer
  let before :=
    ["echo \"Importing env outputs from dependencies...\""] ++ front.flatMap transfer.importOutputs
      ++ (transfer.importOutputs name).take 3
  let after := (transfer.importOutputs name).drop 4 ++ rest.flatMap transfer.importOutputs
      ++ ["echo \"Env outputs imported\"", ""]
  refine ⟨before, after, ?_⟩
  simp [Step.plain, before, after, importOutputs]

/-- The line that appends the value is built from pieces that the carry channel uses as well. -/
theorem exportLine_value (file var : String) :
    "  " ++ CarryChannel.exportLine var "\"$_value\"" file =
      "  echo \"export " ++ var ++ "=$(printf '%q' \"$_value\")\" >> " ++ file := by
  have hbefore : "  echo \"export " = "  " ++ "echo \"export " := rfl
  have hafter : "=$(printf '%q' \"$_value\")\" >> " =
      "=$(printf '%q' " ++ ("\"$_value\"" ++ ")\" >> ") := rfl
  unfold CarryChannel.exportLine
  rw [hbefore, hafter]
  simp only [String.append_assoc]

/-- The lines of one output: a comment, and those that look for the value and append it. -/
theorem exportOutput_eq (name output : String) (searched : List String) :
    exportOutput name output searched =
      ["# " ++ output] ++ lookupLines output searched
        ++ appendLines (Shell.quote (outputFile name)) (jobOutputVar name output) := by
  unfold appendLines
  rw [← exportLine_value]
  rfl

/-- The export step empties the file first, and has the lines of every env output after that. -/
theorem exportStep_writes (transfer : EnvTransfer) (name : String) {job : Job} {output : String}
    (h : output ∈ job.envOutputs) :
    WritesOutput (transfer.exportStep name job).run (Shell.quote (outputFile name))
      (jobOutputVar name output) output (transfer.searchOrder job output) := by
  obtain ⟨front, rest, houtputs⟩ := List.append_of_mem h
  unfold exportStep stepOfBlocks WritesOutput
  rw [houtputs, List.map_append, List.map_cons, List.flatten_append, List.flatten_cons,
    exportOutput_eq]
  let blocks (outputs : List String) : List String :=
    (outputs.map fun output =>
      exportOutput name output (transfer.searchOrder job output)).flatten
  let before :=
    ["echo \"Exporting env outputs for job " ++ name ++ "...\"", "",
      "# values set by earlier steps live in the carry channel"]
      ++ transfer.carry.source ++ [""]
  let between := blocks front ++ ["# " ++ output]
  let after := blocks rest ++ ["echo \"Env outputs exported to " ++ outputFile name ++ "\"", ""]
  refine ⟨before, between, after, ?_⟩
  simp [Step.plain, before, between, after, blocks]

/-! ## The whole way -/

/-- **For every job with env outputs, every one of them and every job that needs it, the output is
handed over**: the hidden artifact is made and taken, the file is written and read under one name,
and the variable that is written is that of the reference, with a value that is looked for where the
steps have left it. Both sides are read off `Extends`, once for the producer and once for the
consumer, which may be the same job. -/
theorem apply_handover (transfer : EnvTransfer) {w : Workflow} (hneeds : HasFixedNeeds w)
    {name client output : String} {producer consumer : Job}
    (hproducer : w.jobs.get? name = some producer) (houtput : output ∈ producer.envOutputs)
    (hconsumer : w.jobs.get? client = some consumer) (hneed : Value.text name ∈ consumer.needs) :
    ∃ w' producer' consumer', transfer.apply w = .ok w'
      ∧ w'.jobs.get? name = some producer' ∧ w'.jobs.get? client = some consumer'
      ∧ Handover name output producer producer' consumer consumer' := by
  let producers := producerNames w.jobs
  have houtputs : producer.envOutputs ≠ [] := List.ne_nil_of_mem houtput
  have hneeded := neededInOrder_neededProducers w.jobs consumer
  have hname : name ∈ neededProducers consumer producers :=
    (hneeded.mem_iff name).mpr ⟨hneed, (isProducer_iff hproducer).mpr houtputs⟩
  have hwrites := extends_transformJob transfer hproducer
  have hreads := extends_transformJob transfer hconsumer
  refine ⟨transfer.extend w, transfer.transformJob producers name producer,
    transfer.transformJob producers client consumer, apply_eq_ok_iff.mpr ⟨hneeds, rfl⟩, ?_, ?_, ?_⟩
  · -- the two jobs after the transfer
    rw [get?_extend, hproducer]
    rfl
  · rw [get?_extend, hconsumer]
    rfl
  · constructor
    · refine ⟨(neededProducers consumer producers).map outputArtifact, ?_,
        count_outputArtifact hneeded.nodup hname⟩
      rw [hreads.inputs, List.map_map]
      rfl
    · rw [hwrites.outputs, if_pos ⟨houtputs, rfl⟩]
    · refine ⟨_, ?_, importStep_hasLine transfer hname⟩
      rw [hreads.steps, if_neg (List.ne_nil_of_mem hname)]
      rfl
    · refine ⟨_, jobOutputVar name output, _, ?_, rfl, exportStep_writes transfer name houtput,
        findsExports_searchOrder transfer producer output⟩
      rw [hwrites.steps, if_neg houtputs, List.getLast?_append]
      rfl

/-- The first job hands its tag over to the second, which needs it. -/
theorem apply_handover_relayWorkflow :
    HasFixedNeeds relayWorkflow
    ∧ ∃ w' producer' consumer', EnvTransfer.apply {} relayWorkflow = .ok w'
        ∧ w'.jobs.get? "build" = some producer' ∧ w'.jobs.get? "test" = some consumer'
        ∧ Handover "build" "tag" (relayJob "build" []) producer' (relayJob "test" relayNeeds)
            consumer' := by
  refine ⟨hasFixedNeeds_relayWorkflow, ?_⟩
  have hneed : Value.text "build" ∈ (relayJob "test" relayNeeds).needs := by
    simp [relayJob, relayNeeds]
  have houtput : "tag" ∈ (relayJob "build" []).envOutputs := List.mem_singleton.mpr rfl
  exact apply_handover {} hasFixedNeeds_relayWorkflow rfl houtput rfl hneed

end ShellFlow.EnvTransfer

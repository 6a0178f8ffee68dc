import ShellFlow.CommandLine
import ShellFlow.Proofs.Json.Characters
import ShellFlow.Proofs.Success
import ShellFlow.Proofs.Text.ControlSequences
import ShellFlow.Proofs.Workflow.Listing
import ShellFlow.Proofs.Workflow.Selection

/-!
# Texts of workflows, job by job

The records of a workflow and its scripts are put together from parts of which each is made of one
job alone. So a selection of the jobs is written with the same parts, and nothing else changes.

* **`toJsonText_eq_ok_iff`** — the records: the name, the environment and a record for each job.
* **`listing_eq_ok_iff`** — the scripts: some lines for each job. Which they are is said in
  `jobListing_eq_ok_iff`.
* **`exists_assembles`** — what is emitted of a workflow and of the selections from it.
-/

namespace ShellFlow

/-! ## Computations on the entries of a map -/

/-- A row of computations, one for each key. -/
theorem OrderedMap.mapM_entries_eq_ok_iff {κ α β ε : Type} [DecidableEq κ] [Nonempty β]
    {m : OrderedMap κ α} {f : κ × α → Except ε β} {bs : List β} :
    m.entries.mapM f = .ok bs ↔
      ∃ g : κ → β, (∀ k a, m.get? k = some a → f (k, a) = .ok (g k)) ∧ bs = m.keys.map g := by
  have hmap : ∀ g : κ → β, (∀ k a, m.get? k = some a → f (k, a) = .ok (g k)) →
      m.entries.mapM f = .ok (m.keys.map g) := by
    intro g hg
    rw [OrderedMap.keys, List.map_map]
    exact Success.mapM_eq_ok_map fun e he => hg e.1 e.2 (OrderedMap.get?_eq_some_iff.mpr he)
  constructor
  · intro h
    have hresult : ∀ k, ∃ b, ∀ a, m.get? k = some a → f (k, a) = .ok b := by
      intro k
      cases hk : m.get? k with
      | none =>
        refine ⟨Classical.arbitrary β, fun a ha => ?_⟩
        cases ha
      | some a =>
        obtain ⟨b, hb⟩ := Success.exists_eq_ok_of_mapM h (OrderedMap.get?_eq_some_iff.mp hk)
        exact ⟨b, fun a' ha' => Option.some.inj ha' ▸ hb⟩
    choose g hg using hresult
    rw [hmap g hg] at h
    exact ⟨g, hg, (Except.ok.inj h).symm⟩
  · rintro ⟨g, hg, rfl⟩
    exact hmap g hg

/-! ## Records

A record of a workflow has a head and one record for each job. The job records are made without a
look at the workflow, and that is what makes selections agree. -/

namespace Checked

variable {α : Type}

/-- A record is made exactly if no problem was found in its fields. -/
theorem finish_eq_ok_iff {record : String} {x : Checked α} {a : α} :
    Checked.finish record x = .ok a ↔ x = ⟨[], a⟩ := by
  obtain ⟨issues, value⟩ := x
  cases issues <;> simp [finish]

theorem keyedJobs_texts (jobs : List (String × JobRecord)) :
    WorkflowRecord.keyedJobs (jobs.map fun e => (.text e.1, e.2)) = ⟨[], jobs⟩ := by
  induction jobs with
  | nil => rfl
  | cons e rest ih =>
    rw [List.map_cons, WorkflowRecord.keyedJobs, ih]
    rfl

end Checked

namespace Workflow

/-- The record of a job as plain data. -/
def jobJson (job : Job) : Except Failure Json := do (← JobRecord.ofJob job).toJson

/-- The name and the environment of a workflow as they stand in its record. -/
structure IsHead (w : Workflow) (name : String) (env : OrderedMap String String) : Prop where
  name : Checked.text [.field "name"] w.name = ⟨[], name⟩
  env : Checked.textMap "env" (Value.namedEntries w.env) = ⟨[], env⟩

/-- The record of a workflow as plain data. -/
def document (name : String) (env : OrderedMap String String) (jobs : List (String × Json)) : Json :=
  .object [("name", .text name), ("env", .ofTextMap env), ("jobs", .object jobs)]

variable {w : Workflow} {names : List String} {indent : Option Nat} {text : String}

theorem ofEntries_eq_mapM (entries : List (String × Job)) : JobRecord.ofEntries entries =
    entries.mapM fun e => do return (e.1, ← JobRecord.ofJob e.2) := by
  induction entries with
  | nil => rfl
  | cons e rest ih =>
    obtain ⟨key, job⟩ := e
    rw [JobRecord.ofEntries, ih, List.mapM_cons]
    cases JobRecord.ofJob job <;> rfl

/-- The record of a workflow can be made of its name, its environment and the records of its jobs
exactly if the name is a text and the environment maps texts to texts. -/
theorem ofParts_eq_ok_iff {name : Value} {env : List (Value × Value)}
    {jobs : List (String × JobRecord)} {r : WorkflowRecord} :
    WorkflowRecord.ofParts name env (jobs.map fun e => (.text e.1, e.2)) = .ok r ↔
      ∃ n e, Checked.text [.field "name"] name = ⟨[], n⟩ ∧ Checked.textMap "env" env = ⟨[], e⟩
        ∧ r = ⟨n, e, OrderedMap.ofList jobs⟩ := by
  rw [WorkflowRecord.ofParts, Checked.finish_eq_ok_iff, Checked.keyedJobs_texts]
  obtain ⟨nameIssues, n⟩ := Checked.text [.field "name"] name
  obtain ⟨envIssues, e⟩ := Checked.textMap "env" env
  constructor
  · intro h
    simp only [bind, pure, Checked.mk.injEq, List.append_eq_nil_iff] at h
    obtain ⟨⟨rfl, rfl, -⟩, rfl⟩ := h
    exact ⟨n, e, rfl, rfl, rfl⟩
  · rintro ⟨n', e', hn, he, rfl⟩
    cases hn
    cases he
    rfl

/-- The record of a job under its key. -/
def jobField (e : String × Job) : Except Failure (String × Json) := do return (e.1, ← jobJson e.2)

/-- The field of a job in the document has the key of the job and the record of the job. -/
theorem jobField_eq_ok_iff {key : String} {job : Job} {f : String × Json} :
    jobField (key, job) = .ok f ↔ f.1 = key ∧ jobJson job = .ok f.2 := by
  rw [jobField, Success.bind_eq_ok]
  obtain ⟨name, j⟩ := f
  constructor
  · rintro ⟨j', hj, h⟩
    cases h
    exact ⟨rfl, hj⟩
  · rintro ⟨rfl, hj⟩
    exact ⟨j, hj, rfl⟩

/-- Whether first all jobs become records and then all records plain data, or one job after the other
becomes both, makes no difference to what is written. -/
theorem mapM_jobField_eq_ok_iff {fields : List (String × Json)} :
    w.jobs.entries.mapM jobField = .ok fields ↔
      ∃ jobs, JobRecord.ofEntries w.jobs.entries = .ok jobs
        ∧ ((OrderedMap.ofList jobs).entries.mapM fun e => do return (e.1, ← e.2.toJson)) =
          .ok fields := by
  have hsteps : jobField = fun e : String × Job =>
      (do return (e.1, ← JobRecord.ofJob e.2) : Except Failure (String × JobRecord)) >>=
        fun e => do return (e.1, ← e.2.toJson) := by
    funext e
    rw [jobField, jobJson]
    cases JobRecord.ofJob e.2 <;> rfl
  rw [hsteps, Success.mapM_bind_eq_ok, ofEntries_eq_mapM]
  refine exists_congr fun jobs => and_congr_right fun hjobs => ?_
  have hkeys : jobs.map Prod.fst = w.jobs.entries.map Prod.fst := by
    refine Success.map_eq_of_mapM (fun e f hf => ?_) hjobs
    obtain ⟨r, -, h⟩ := Success.bind_eq_ok.mp hf
    cases h
    rfl
  -- no key stands twice, so no record replaces another
  rw [OrderedMap.entries_ofList_of_nodup (hkeys ▸ w.jobs.nodup_keys)]

/-- **What the document of a workflow is made of**: a head, and for every key the record of the job,
which depends on nothing but the job. A selection of jobs therefore has the same records for
them. -/
theorem toJsonText_eq_ok_iff : w.toJsonText indent = .ok text ↔
    ∃ name env, IsHead w name env ∧ ∃ record : String → Json,
      (∀ key job, w.jobs.get? key = some job → jobJson job = .ok (record key))
        ∧ text = (document name env (w.jobs.keys.map fun key => (key, record key))).render indent := by
  constructor
  · intro h
    obtain ⟨r, hr, hwritten⟩ := Success.bind_eq_ok.mp h
    obtain ⟨jobs, hjobs, hparts⟩ := Success.bind_eq_ok.mp hr
    obtain ⟨name, env, hname, henv, rfl⟩ := ofParts_eq_ok_iff.mp hparts
    obtain ⟨j, hj, hwritten⟩ := Success.bind_eq_ok.mp hwritten
    obtain ⟨fields, hfields, hj⟩ := Success.bind_eq_ok.mp hj
    cases hj
    cases hwritten
    obtain ⟨field, hfield, rfl⟩ :=
      OrderedMap.mapM_entries_eq_ok_iff.mp (mapM_jobField_eq_ok_iff.mpr ⟨jobs, hjobs, hfields⟩)
    refine ⟨name, env, ⟨hname, henv⟩, fun key => (field key).2, fun key job hjob => ?_, ?_⟩
    · exact (jobField_eq_ok_iff.mp (hfield key job hjob)).2
    · -- each field has the key of its job, so it is known by its record
      have hsame : w.jobs.keys.map field = w.jobs.keys.map fun key => (key, (field key).2) := by
        refine List.map_congr_left fun key hkey => ?_
        obtain ⟨job, hjob⟩ := OrderedMap.exists_get?_of_mem hkey
        exact Prod.ext (jobField_eq_ok_iff.mp (hfield key job hjob)).1 rfl
      rw [hsame]
      rfl
  · rintro ⟨name, env, hhead, record, hrecord, rfl⟩
    -- the records that are given make the fields, and these come from records of the jobs
    have hfields : w.jobs.entries.mapM jobField =
        .ok (w.jobs.keys.map fun key => (key, record key)) :=
      OrderedMap.mapM_entries_eq_ok_iff.mpr
        ⟨_, fun key job hjob => jobField_eq_ok_iff.mpr ⟨rfl, hrecord key job hjob⟩, rfl⟩
    obtain ⟨jobs, hjobs, hwritten⟩ := mapM_jobField_eq_ok_iff.mp hfields
    have hparts : WorkflowRecord.ofParts w.name (Value.namedEntries w.env)
        (jobs.map fun e => (.text e.1, e.2)) = .ok ⟨name, env, OrderedMap.ofList jobs⟩ :=
      ofParts_eq_ok_iff.mpr ⟨name, env, hhead.name, hhead.env, rfl⟩
    refine Success.bind_eq_ok.mpr ⟨_, Success.bind_eq_ok.mpr ⟨jobs, hjobs, hparts⟩, ?_⟩
    exact Success.bind_eq_ok.mpr ⟨_, Success.bind_eq_ok.mpr ⟨_, hwritten, rfl⟩, rfl⟩

/-! ## Scripts -/

/-- **What the listing of a workflow is made of**: for every key a block that depends on nothing but
the key and the job. -/
theorem listing_eq_ok_iff : w.listing = .ok text ↔ ∃ block : String → List String,
    (∀ key job, w.jobs.get? key = some job → jobListing key job = .ok (block key))
      ∧ text = Text.joinLines (w.jobs.keys.flatMap block) := by
  rw [listing, Success.bind_eq_ok]
  constructor
  · rintro ⟨blocks, hblocks, h⟩
    obtain ⟨block, hblock, rfl⟩ := OrderedMap.mapM_entries_eq_ok_iff.mp hblocks
    cases h
    exact ⟨block, hblock, by rw [List.flatMap_def]⟩
  · rintro ⟨block, hblock, rfl⟩
    exact ⟨_, OrderedMap.mapM_entries_eq_ok_iff.mpr ⟨block, hblock, rfl⟩, by rw [List.flatMap_def]⟩

end Workflow

/-! ## What is emitted -/

namespace CommandLine

/-- A text as it is written: a file gets it as it is, the standard stream without control
sequences. -/
def shown (output : Option String) (text : String) : String :=
  match output with
  | none => Text.withoutSequences text
  | some _ => text

/-- The lines that stand for a job among the scripts: those of its headings and of its scripts. -/
structure IsBlock (output : Option String) (key : String) (job : Job) (lines : List String) :
    Prop where
  listed : ∃ texts, Workflow.ListsJob key job texts
    ∧ lines = (texts.flatMap Text.splitNewlines).map (shown output)
  newline : ∀ line ∈ lines, '\n' ∉ line.toList

/-- The text of any jobs of a workflow, by their keys. -/
inductive Assembles (output : Option String) (w : Workflow) :
    Format → (List String → String) → Prop
  | json {name : String} {env : OrderedMap String String} {record : String → Json} :
      w.IsHead name env →
      (∀ key job, w.jobs.get? key = some job → Workflow.jobJson job = .ok (record key)) →
      Assembles output w .json fun keys =>
        (Workflow.document name env (keys.map fun key => (key, record key))).render (some 2)
  | shell {block : String → List String} :
      (∀ key job, w.jobs.get? key = some job → IsBlock output key job (block key)) →
      Assembles output w .shell fun keys => Text.joinLines (keys.flatMap block)

variable {output : Option String} {w : Workflow} {format : Format} {whole : String}

/-- A rendered document is shown as it is: its control characters are escaped, so a terminal has
nothing to take out of it. -/
theorem shown_render (output : Option String) (indent : Option Nat) (j : Json) :
    shown output (j.render indent) = j.render indent := by
  cases output with
  | none => exact Json.withoutSequences_render indent j
  | some path => rfl

/-- Showing a text on a terminal is showing its lines. -/
theorem shown_joinLines (output : Option String) (texts : List String) :
    shown output (Text.joinLines texts) =
      Text.joinLines ((texts.flatMap Text.splitNewlines).map (shown output)) := by
  have hlines : Text.joinLines (texts.flatMap Text.splitNewlines) = Text.joinLines texts := by
    cases texts with
    | nil => rfl
    | cons text rest =>
      rw [← Text.splitNewlines_joinLines (List.cons_ne_nil text rest), Text.joinLines_splitNewlines]
  rw [← hlines]
  cases output with
  | none => exact Text.withoutSequences_joinLines _
  | some path => exact congrArg Text.joinLines (List.map_id _).symm

theorem not_mem_shown {line : String} (h : '\n' ∉ line.toList) : '\n' ∉ (shown output line).toList := by
  cases output with
  | none =>
    show '\n' ∉ (String.ofList _).toList
    rw [String.toList_ofList]
    exact fun hmem => h (Text.mem_of_mem_removeSequences hmem)
  | some path => exact h

/-- What is shown of a job is a block: the texts that are listed for it, cut into lines where a
script has several. -/
theorem isBlock_of_jobListing {key : String} {job : Job} {texts : List String}
    (h : Workflow.jobListing key job = .ok texts) :
    IsBlock output key job ((texts.flatMap Text.splitNewlines).map (shown output)) := by
  refine ⟨⟨texts, Workflow.jobListing_eq_ok_iff.mp h, rfl⟩, fun line hline => ?_⟩
  obtain ⟨cut, hcut, rfl⟩ := List.mem_map.mp hline
  obtain ⟨text, -, htext⟩ := List.mem_flatMap.mp hcut
  exact not_mem_shown (Text.not_mem_of_mem_splitNewlines htext)

/-- What holds of the jobs of a workflow holds of those that are selected. -/
theorem forall_of_isSelection {names : List String} {v : Workflow} (hv : w.IsSelection names v)
    {P : String → Job → Prop} (h : ∀ key job, w.jobs.get? key = some job → P key job) :
    ∀ key job, v.jobs.get? key = some job → P key job := by
  intro key job hjob
  have hkey : key ∈ v.jobs.keys := by
    by_contra hnone
    rw [OrderedMap.get?_eq_none_iff.mpr hnone] at hjob
    cases hjob
  exact h key job (hv.job key (hv.keys ▸ hkey) ▸ hjob)

/-- What can be emitted is put together of one part for each job, and with the same parts each
selection of the jobs is emitted too. -/
theorem exists_assembles (output : Option String) (h : emit format (.workflow w) = .ok whole) :
    ∃ textOf, Assembles output w format textOf ∧ ∀ names v, w.IsSelection names v →
      ∃ text, emit format (.workflow v) = .ok text
        ∧ shown output text = textOf (w.chosen names) := by
  cases format with
  | json =>
    obtain ⟨name, env, hhead, record, hrecord, -⟩ := Workflow.toJsonText_eq_ok_iff.mp h
    refine ⟨_, .json hhead hrecord, fun names v hv => ⟨_, ?_, shown_render output (some 2) _⟩⟩
    have hhead' : v.IsHead name env := ⟨hv.name ▸ hhead.name, hv.env ▸ hhead.env⟩
    rw [← hv.keys]
    exact Workflow.toJsonText_eq_ok_iff.mpr
      ⟨name, env, hhead', record, forall_of_isSelection hv hrecord, rfl⟩
  | shell =>
    obtain ⟨texts, htexts, -⟩ := Workflow.listing_eq_ok_iff.mp h
    refine ⟨_, .shell fun key job hjob => isBlock_of_jobListing (htexts key job hjob),
      fun names v hv => ⟨_, Workflow.listing_eq_ok_iff.mpr
        ⟨texts, forall_of_isSelection hv htexts, rfl⟩, ?_⟩⟩
    rw [shown_joinLines, hv.keys, List.flatMap_assoc, List.map_flatMap]

end CommandLine

end ShellFlow

import ShellFlow.Job

/-!
# Workflows

A workflow is a mapping from names to jobs with an environment for all of them. Every job bears the
name under which it stands, and artifact names have to be unique across the jobs.

## Main statements

* `keys_ofJobs`: a workflow has the job names it was made from.
* `ofJobs_jobs`: making a workflow of the jobs of a workflow changes nothing.
-/

namespace ShellFlow

/-- Jobs under their names, with an environment. -/
structure Workflow where
  name : Label
  jobs : Jobs
  env : OrderedMap String Value
  /-- Every job bears the name under which it stands. -/
  named : ∀ e ∈ jobs.entries, e.2.name = .text e.1

namespace Workflow

/-- The jobs, each with the name under which it stands. -/
def rename (jobs : Jobs) : Jobs := jobs.map fun key job => { job with name := .text key }

theorem name_of_mem_rename {jobs : Jobs} : ∀ e ∈ (rename jobs).entries, e.2.name = .text e.1 := by
  intro e he
  simp only [rename, OrderedMap.map, List.mem_map] at he
  obtain ⟨e', _, rfl⟩ := he
  rfl

def ofJobs (name : Label) (jobs : Jobs) (env : OrderedMap String Value) : Workflow :=
  ⟨name, rename jobs, env, name_of_mem_rename⟩

/-- The same workflow with other jobs. -/
def withJobs (workflow : Workflow) (jobs : Jobs) : Workflow :=
  ofJobs workflow.name jobs workflow.env

def job (workflow : Workflow) (name : String) : Except Failure Job :=
  match workflow.jobs.get? name with
  | some job => .ok job
  | none => .error (.missingKey name)

/-- The names that no job of the workflow has, in the given order. -/
def missingJobs (workflow : Workflow) (names : List String) : List String :=
  names.filter fun name => !decide (name ∈ workflow.jobs.keys)

/-- The jobs of some names, once each, in the order in which they are mentioned first. -/
def restrict (workflow : Workflow) (names : List String) : Workflow :=
  workflow.withJobs
    (OrderedMap.ofList
      (names.filterMap fun name => (workflow.jobs.get? name).map fun job => (name, job)))

def size (workflow : Workflow) : Nat := workflow.jobs.size

/-- Equality of two workflows, without regard to the order of jobs. -/
def eqv (a b : Workflow) : Bool :=
  a.name.same b.name && a.jobs.sameBy Job.eqv b.jobs && a.env.sameBy Value.same b.env

def artifactNames (jobs : Jobs) : List String := jobs.values.flatMap fun job => job.outputs.keys

/-- The names that occur more than once, in code point order. -/
def repeated (names : List String) : List String :=
  Failure.sortNames (names.eraseDups.filter fun name => names.count name > 1)

/-- Refuses jobs of which two make an artifact of one name. -/
def checkArtifacts (jobs : Jobs) : Except Failure Unit :=
  let names := repeated (artifactNames jobs)
  if names.isEmpty then .ok () else .error (.duplicateArtifact (.ofTexts names))

@[simp]
theorem keys_ofJobs (name : Label) (jobs : Jobs) (env : OrderedMap String Value) :
    (ofJobs name jobs env).jobs.keys = jobs.keys := by
  simp [ofJobs, rename]

theorem rename_jobs (workflow : Workflow) : rename workflow.jobs = workflow.jobs := by
  obtain ⟨name, ⟨entries, hnodup⟩, env, hnamed⟩ := workflow
  have h : entries.map (fun e => (e.1, { e.2 with name := .text e.1 })) = entries := by
    conv => rhs; rw [← List.map_id entries]
    refine List.map_congr_left fun e he => ?_
    obtain ⟨key, job⟩ := e
    have hname : job.name = .text key := hnamed (key, job) he
    obtain ⟨_, _⟩ := job
    simp_all
  simp only [rename, OrderedMap.map, h]

theorem ofJobs_jobs (workflow : Workflow) :
    ofJobs workflow.name workflow.jobs workflow.env = workflow := by
  have h := rename_jobs workflow
  obtain ⟨name, jobs, env, hnamed⟩ := workflow
  simp only [ofJobs]
  congr

end Workflow

end ShellFlow

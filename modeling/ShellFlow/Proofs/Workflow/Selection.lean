import ShellFlow.Proofs.Insertions
import ShellFlow.Workflow

/-!
# Selected jobs

A workflow can be cut down to the jobs of some names. It keeps its name and its environment, and
each job stays as it is.

* **`Workflow.IsSelection`** — what belongs to a selection.
* **`Workflow.isSelection_select`** — the workflow that is cut down is one, if all names are known.
-/

namespace ShellFlow.Workflow

variable {w : Workflow} {names : List String}

/-- The jobs that are asked for, once each, in the order in which they are mentioned first; all jobs
if none is mentioned. -/
def chosen (w : Workflow) (names : List String) : List String :=
  if names = [] then w.jobs.keys else names.eraseDups

structure IsSelection (w : Workflow) (names : List String) (selected : Workflow) : Prop where
  name : selected.name = w.name
  env : selected.env = w.env
  keys : selected.jobs.keys = w.chosen names
  job : ∀ key ∈ w.chosen names, selected.jobs.get? key = w.jobs.get? key

/-- The workflow with the jobs that are asked for. -/
def select (w : Workflow) (names : List String) : Workflow :=
  if names = [] then w else w.restrict names

theorem missingJobs_eq_nil_iff : w.missingJobs names = [] ↔ ∀ name ∈ names, name ∈ w.jobs.keys := by
  simp [missingJobs, List.filter_eq_nil_iff]

/-- A job of a workflow bears its name already, so it is not changed by being put under it. -/
theorem get?_rename_of_get? {jobs : Jobs} {key : String} (h : jobs.get? key = w.jobs.get? key) :
    (rename jobs).get? key = w.jobs.get? key := by
  have hnamed : (rename w.jobs).get? key = w.jobs.get? key := by rw [rename_jobs]
  rw [rename, OrderedMap.get?_map] at hnamed
  rw [rename, OrderedMap.get?_map, h, hnamed]

/-- The workflow with the jobs of the names, in the order of the workflow and with everything else
as it was. -/
theorem isSelection_restrict (hne : names ≠ []) (h : ∀ name ∈ names, name ∈ w.jobs.keys) :
    IsSelection w names (w.restrict names) := by
  have hchosen : w.chosen names = names.eraseDups := if_neg hne
  refine ⟨rfl, rfl, ?_, fun key hkey => ?_⟩
  · have hnames : (names.filterMap fun name => (w.jobs.get? name).map fun job => (name, job)).map
        Prod.fst = names := by
      rw [List.map_filterMap]
      refine (List.filterMap_congr fun name hname => ?_).trans List.filterMap_some
      obtain ⟨job, hjob⟩ := OrderedMap.exists_get?_of_mem (h name hname)
      rw [hjob]
      rfl
    rw [restrict, withJobs, keys_ofJobs, OrderedMap.keys_ofList, hnames, hchosen]
  · refine get?_rename_of_get? ?_
    rw [OrderedMap.get?_ofList_filterMap]
    exact if_pos (List.mem_eraseDups.mp (hchosen ▸ hkey))

theorem isSelection_self (w : Workflow) : IsSelection w [] w := ⟨rfl, rfl, rfl, fun _ _ => rfl⟩

theorem isSelection_select (h : ∀ name ∈ names, name ∈ w.jobs.keys) :
    IsSelection w names (w.select names) := by
  unfold select
  split
  · rename_i hnil
    exact hnil ▸ isSelection_self w
  · rename_i hne
    exact isSelection_restrict hne h

end ShellFlow.Workflow

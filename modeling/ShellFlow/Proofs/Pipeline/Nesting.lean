import ShellFlow.Pipeline

/-!
# Nested pipelines

A pipeline is an extension, so the members of a pipeline may be pipelines again, to any depth. What
happens when such a pipeline is applied is a list of events: an extension is called, or an inner
pipeline is entered. The events say which extensions are called, with which workflows, and what debug
text is left behind, and the calls alone are those of the pipeline without the nesting.

* **`Runs`**, **`Runs.unique`** — the events of a run and its result, member by member.
* **`Runs.applyAll_eq`** — applying members leaves the texts of the events and has their result.
* **`Runs.flatten`** — the calls of a run are a run of the leaves.
* **`exists_runs`** — every list of members has a run.
* **`apply_nested`** — a nested pipeline against the flat one.
-/

namespace ShellFlow.Pipeline

/-! ## Members -/

/-- A member of a pipeline: an extension that is none, or a pipeline that was made of some members
and to which others were added one by one. -/
inductive Member where
  | leaf (extension : Extension)
  | group (given added : List Member)

/-- The pipeline that is made of some extensions and to which others are added one by one. -/
def build (given added : List Extension) : Pipeline := added.foldl andThen ⟨given⟩

/-- Adding extensions one by one comes to adding them all. -/
theorem build_eq (given added : List Extension) : build given added = ⟨given ++ added⟩ := by
  unfold build
  induction added generalizing given with
  | nil => rw [List.foldl_nil, List.append_nil]
  | cons extension rest ih =>
    rw [List.foldl_cons]
    show rest.foldl andThen ⟨given ++ [extension]⟩ = _
    rw [ih, List.append_assoc, List.singleton_append]

mutual

/-- The extension that a member is. -/
def Member.toExtension : Member → Extension
  | .leaf extension => extension
  | .group given added => (build (toExtensions given) (toExtensions added)).asExtension
termination_by structural member => member

/-- The extensions that some members are. -/
def toExtensions : List Member → List Extension
  | [] => []
  | member :: rest => member.toExtension :: toExtensions rest
termination_by structural members => members

end

mutual

/-- The extensions in a member that are no groups, from left to right. -/
def Member.leaves : Member → List Extension
  | .leaf extension => [extension]
  | .group given added => leaves given ++ leaves added
termination_by structural member => member

/-- The extensions in some members that are no groups, from left to right. -/
def leaves : List Member → List Extension
  | [] => []
  | member :: rest => member.leaves ++ leaves rest
termination_by structural members => members

end

theorem toExtensions_append (first second : List Member) :
    toExtensions (first ++ second) = toExtensions first ++ toExtensions second := by
  induction first with
  | nil => rfl
  | cons member rest ih => rw [List.cons_append, toExtensions, toExtensions, ih, List.cons_append]

theorem leaves_append (first second : List Member) :
    leaves (first ++ second) = leaves first ++ leaves second := by
  induction first with
  | nil => rfl
  | cons member rest ih => rw [List.cons_append, leaves, leaves, ih, List.append_assoc]

theorem toExtensions_map_leaf (list : List Extension) : toExtensions (list.map .leaf) = list := by
  induction list with
  | nil => rfl
  | cons extension rest ih => rw [List.map_cons, toExtensions, ih, Member.toExtension]

/-! ## Runs

A run goes through the members one by one. It is a relation, so that nested groups need no measure
to go by, and it is shown to be a function below. -/

/-- What happens while a pipeline is applied. -/
inductive Event where
  /-- An extension is called with a workflow. -/
  | call (extension : Extension) (workflow : Workflow)
  /-- An inner pipeline is given a workflow. -/
  | enter (workflow : Workflow)

namespace Event

/-- What an event leaves behind. The line of a call and what the extension leaves itself come from
the call; an inner pipeline leaves its own line only. -/
def trace : Event → List TraceEntry
  | .call extension workflow => (extension.apply workflow).trace
  | .enter workflow =>
    [.line ("applying extension Pipeline to workflow '" ++ workflow.name.display ++ "'")]

def isCall : Event → Bool
  | .call .. => true
  | .enter _ => false

end Event

/-- The events of applying members to a workflow, one after another, and the result. A failure ends
the run, and with it that of every group around. -/
inductive Runs : List Member → Workflow → List Event → Except Failure Workflow → Prop
  | done (workflow : Workflow) : Runs [] workflow [] (.ok workflow)
  | leafFails {extension : Extension} {rest : List Member} {workflow : Workflow} {e : Failure} :
      (extension.apply workflow).result = .error e →
      Runs (.leaf extension :: rest) workflow [.call extension workflow] (.error e)
  | leafPasses {extension : Extension} {rest : List Member} {workflow next : Workflow}
      {events : List Event} {result : Except Failure Workflow} :
      (extension.apply workflow).result = .ok next →
      Runs rest next events result →
      Runs (.leaf extension :: rest) workflow (.call extension workflow :: events) result
  | groupFails {given added rest : List Member} {workflow : Workflow} {inner : List Event}
      {e : Failure} :
      Runs (given ++ added) workflow inner (.error e) →
      Runs (.group given added :: rest) workflow (.enter workflow :: inner) (.error e)
  | groupPasses {given added rest : List Member} {workflow next : Workflow}
      {inner events : List Event} {result : Except Failure Workflow} :
      Runs (given ++ added) workflow inner (.ok next) →
      Runs rest next events result →
      Runs (.group given added :: rest) workflow (.enter workflow :: inner ++ events) result

/-- There is no choice in a run: extensions are functions, and only a result decides how it goes on. -/
theorem Runs.unique {members : List Member} {workflow : Workflow} {events events' : List Event}
    {result result' : Except Failure Workflow} (h : Runs members workflow events result)
    (h' : Runs members workflow events' result') : events' = events ∧ result' = result := by
  induction h generalizing events' result' with
  | done workflow =>
    cases h'
    exact ⟨rfl, rfl⟩
  -- an extension gives one result, so it cannot fail in one run and pass in another
  | leafFails hfails =>
    cases h' with
    | leafFails hfails' =>
      cases hfails.symm.trans hfails'
      exact ⟨rfl, rfl⟩
    | leafPasses hpasses' => cases hfails.symm.trans hpasses'
  | leafPasses hpasses _ ih =>
    cases h' with
    | leafFails hfails' => cases hpasses.symm.trans hfails'
    | leafPasses hpasses' hrest' =>
      cases hpasses.symm.trans hpasses'
      obtain ⟨rfl, rfl⟩ := ih hrest'
      exact ⟨rfl, rfl⟩
  -- of an inner pipeline this is known by induction
  | groupFails _ ih =>
    cases h' with
    | groupFails hinner' =>
      obtain ⟨rfl, hresult⟩ := ih hinner'
      exact ⟨rfl, hresult⟩
    | groupPasses hinner' => cases (ih hinner').2
  | groupPasses _ _ ihInner ih =>
    cases h' with
    | groupFails hinner' => cases (ihInner hinner').2
    | groupPasses hinner' hrest' =>
      obtain ⟨rfl, hnext⟩ := ihInner hinner'
      cases hnext
      obtain ⟨rfl, rfl⟩ := ih hrest'
      exact ⟨rfl, rfl⟩

/-- So to know one run of some members is to know all of them. -/
theorem Runs.iff_eq {members : List Member} {workflow : Workflow} {events : List Event}
    {result : Except Failure Workflow} (h : Runs members workflow events result)
    (events' : List Event) (result' : Except Failure Workflow) :
    Runs members workflow events' result' ↔ events' = events ∧ result' = result := by
  constructor
  · exact h.unique
  · rintro ⟨rfl, rfl⟩
    exact h

/-! ## What a run leaves behind -/

/-- A pipeline that is applied as an extension leaves a line of its own, and then does what it does. -/
theorem apply_asExtension (pipeline : Pipeline) (workflow : Workflow) :
    pipeline.asExtension.apply workflow =
      ⟨(Event.enter workflow).trace ++ (pipeline.apply workflow).trace,
        (pipeline.apply workflow).result⟩ := by
  unfold Extension.apply asExtension
  cases hresult : (pipeline.apply workflow).result with
  | error e => simp [Event.trace, Traced.log, Traced.bind, bind, hresult]
  | ok next => simp [Event.trace, Traced.log, Traced.bind, Traced.ok, bind, hresult]

/-- What a group leaves behind: its own line, then what its members leave. -/
theorem apply_group (given added : List Member) (workflow : Workflow) :
    (Member.group given added).toExtension.apply workflow =
      ⟨(Event.enter workflow).trace ++ (applyAll (toExtensions (given ++ added)) workflow).trace,
        (applyAll (toExtensions (given ++ added)) workflow).result⟩ := by
  rw [Member.toExtension, build_eq, ← toExtensions_append]
  exact apply_asExtension _ workflow

/-- Applying the members of a run leaves the texts of its events, in their order, and has its result.
Induction on the run. -/
theorem Runs.applyAll_eq {members : List Member} {workflow : Workflow} {events : List Event}
    {result : Except Failure Workflow} (h : Runs members workflow events result) :
    applyAll (toExtensions members) workflow = ⟨events.flatMap Event.trace, result⟩ := by
  induction h with
  | done workflow => rfl
  | leafFails hfails =>
    rw [toExtensions, Member.toExtension, apply_cons, Traced.bind, hfails]
    simp [Event.trace]
  | leafPasses hpasses _ ih =>
    rw [toExtensions, Member.toExtension, apply_cons, Traced.bind, hpasses]
    simp [Event.trace, ih]
  | groupFails _ ih =>
    rw [toExtensions, apply_cons, apply_group, ih, Traced.bind]
    simp
  | groupPasses _ _ ihInner ih =>
    rw [toExtensions, apply_cons, apply_group, ihInner, Traced.bind]
    simp [ih]

/-! ## Runs of the leaves

Taking the groups apart leaves the calls as they are and drops the lines at which an inner pipeline
is entered. -/

/-- Two runs in a row, the second with the workflow that the first has left. -/
theorem Runs.append {first second : List Member} {workflow next : Workflow}
    {events events' : List Event} {result : Except Failure Workflow}
    (h : Runs first workflow events (.ok next)) (h' : Runs second next events' result) :
    Runs (first ++ second) workflow (events ++ events') result := by
  generalize hok : Except.ok next = passed at h
  induction h with
  | done workflow =>
    cases hok
    exact h'
  | leafFails => cases hok
  | leafPasses hpasses _ ih => exact .leafPasses hpasses (ih hok)
  | groupFails => cases hok
  | groupPasses hinner _ _ ih =>
    rw [List.append_assoc]
    exact .groupPasses hinner (ih hok)

/-- What comes after a failure is not run. -/
theorem Runs.append_of_error {first : List Member} {workflow : Workflow} {events : List Event}
    {e : Failure} (h : Runs first workflow events (.error e)) (second : List Member) :
    Runs (first ++ second) workflow events (.error e) := by
  generalize herror : Except.error e = failed at h
  induction h with
  | done workflow => cases herror
  | leafFails hfails => exact .leafFails hfails
  | leafPasses hpasses _ ih => exact .leafPasses hpasses (ih herror)
  | groupFails hinner => exact .groupFails hinner
  | groupPasses hinner _ _ ih => exact .groupPasses hinner (ih herror)

/-- Without the groups that are entered, the events are those of the leaves. Induction on the run. -/
theorem Runs.flatten {members : List Member} {workflow : Workflow} {events : List Event}
    {result : Except Failure Workflow} (h : Runs members workflow events result) :
    Runs ((leaves members).map .leaf) workflow (events.filter Event.isCall) result := by
  induction h with
  | done workflow => exact .done workflow
  | leafFails hfails => exact .leafFails hfails
  | leafPasses hpasses _ ih => exact .leafPasses hpasses ih
  | @groupFails given added rest workflow inner e _ ih =>
    rw [leaves, Member.leaves, ← leaves_append, List.map_append]
    exact ih.append_of_error _
  | @groupPasses given added rest workflow next inner events result _ _ ihInner ih =>
    rw [leaves, Member.leaves, ← leaves_append, List.map_append]
    have hevents : (Event.enter workflow :: inner ++ events).filter Event.isCall =
        inner.filter Event.isCall ++ events.filter Event.isCall := by
      rw [List.cons_append, List.filter_cons_of_neg (by simp [Event.isCall]), List.filter_append]
    rw [hevents]
    exact ihInner.append ih

/-! ## Every list of members has a run -/

/-- Members that can be run can be run together: after a failure the second part is not needed. -/
theorem exists_runs_append {first second : List Member}
    (hfirst : ∀ workflow, ∃ events result, Runs first workflow events result)
    (hsecond : ∀ workflow, ∃ events result, Runs second workflow events result)
    (workflow : Workflow) : ∃ events result, Runs (first ++ second) workflow events result := by
  obtain ⟨events, result, h⟩ := hfirst workflow
  cases result with
  | error e => exact ⟨_, _, h.append_of_error second⟩
  | ok next =>
    obtain ⟨events', result', h'⟩ := hsecond next
    exact ⟨_, _, h.append h'⟩

mutual

theorem Member.exists_runs (member : Member) (workflow : Workflow) :
    ∃ events result, Runs [member] workflow events result := by
  match member with
  | .leaf extension =>
    cases hresult : (extension.apply workflow).result with
    | error e => exact ⟨_, _, .leafFails hresult⟩
    | ok next => exact ⟨_, _, .leafPasses hresult (.done next)⟩
  | .group given added =>
    obtain ⟨inner, result, hinner⟩ :=
      exists_runs_append (exists_runs given) (exists_runs added) workflow
    cases result with
    | error e => exact ⟨_, _, .groupFails hinner⟩
    | ok next => exact ⟨_, _, .groupPasses hinner (.done next)⟩
termination_by structural member

/-- Some members can be run, with every workflow. The recursion goes through the members and into
the groups. -/
theorem exists_runs (members : List Member) (workflow : Workflow) :
    ∃ events result, Runs members workflow events result := by
  match members with
  | [] => exact ⟨_, _, .done workflow⟩
  | member :: rest =>
    show ∃ events result, Runs ([member] ++ rest) workflow events result
    exact exists_runs_append member.exists_runs (exists_runs rest) workflow
termination_by structural members

end

/-! ## Nested and flat pipelines -/

/-- **Nesting changes nothing but the trace.** A nested pipeline, however its groups were put
together, has one run, and the result of the flat pipeline of its leaves, be it a workflow or a
failure. It calls the same extensions with the same workflows in the same order, up to the first
that fails, and leaves the same texts, apart from one line for each inner pipeline that it enters.
Runs are a relation with one rule for each kind of member; `Runs.flatten` goes by induction on
it. -/
theorem apply_nested (given added : List Member) (workflow : Workflow) :
    ∃ events result,
      (∀ events' result', Runs (given ++ added) workflow events' result' ↔
          events' = events ∧ result' = result)
      ∧ (∀ events' result',
          Runs ((leaves given ++ leaves added).map .leaf) workflow events' result' ↔
            events' = events.filter Event.isCall ∧ result' = result)
      ∧ (build (toExtensions given) (toExtensions added)).apply workflow =
          ⟨events.flatMap Event.trace, result⟩
      ∧ (Pipeline.mk (leaves given ++ leaves added)).apply workflow =
          ⟨(events.filter Event.isCall).flatMap Event.trace, result⟩ := by
  obtain ⟨events, result, hrun⟩ := exists_runs (given ++ added) workflow
  have hflat := hrun.flatten
  rw [leaves_append] at hflat
  refine ⟨events, result, hrun.iff_eq, hflat.iff_eq, ?_, ?_⟩
  · rw [build_eq, ← toExtensions_append]
    exact hrun.applyAll_eq
  · have happly := hflat.applyAll_eq
    rw [toExtensions_map_leaf] at happly
    exact happly

end ShellFlow.Pipeline

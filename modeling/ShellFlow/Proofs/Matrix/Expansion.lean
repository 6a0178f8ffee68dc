import ShellFlow.Object.Jobs
import ShellFlow.Proofs.Insertions
import ShellFlow.Proofs.Matrix.Combinations

/-!
# Expansion of a matrix

The jobs of a matrix are built in the order of the combinations and written into a map under their
names, so a name stands where it came in first and has the job that was built last. The same goes for
the variables of a job: of the dimensions whose names sanitize alike the last one counts. If the
template fails, the first failure is that of the matrix.

* **`expandJobs_eq`** — the expansion as a run over all combinations and a map of what it yields.
* **`isPlaced_place`** — the job of a combination, field by field.
* **`isExpansion_of_mapM`** — names and jobs, told by the indices of the combinations.
* **`expandJobs_outcome`** — the result of a matrix.
* **`expand_matrixBuilder`** — templates that build jobs among other objects give the same jobs.
-/

namespace ShellFlow.Matrix

/-! ## What an expansion is -/

def matrixOf (entries : List (String × Value)) : Value :=
  .mapping (entries.map fun e => (.text e.1, e.2))

/-- The jobs of a matrix, if the template builds jobs. -/
def expandJobs (name : String) (entries : List (String × Value))
    (template : OrderedMap String Value → Except Failure Job) :
    Except Failure (OrderedMap String Job) :=
  expand name (matrixOf entries) (.function (.ofJobs template))

/-- What comes of the template if it gets the values of the combination under their names. -/
def Gives (template : OrderedMap String Value → Except Failure Job) (c : Combination)
    (result : Except Failure Job) : Prop :=
  ∃ vars : OrderedMap String Value, vars.entries = c ∧ template vars = result

/-- The first combination for which the template fails has this failure. -/
def FailsFirst (template : OrderedMap String Value → Except Failure Job) (dims : Dimensions)
    (e : Failure) : Prop :=
  ∃ is c, Picks dims is c ∧ Gives template c (.error e)
    ∧ ∀ is' c', Picks dims is' c' → is' < is → ∃ built, Gives template c' (.ok built)

/-- Among the dimensions whose names sanitize alike the entry is that of the last one. -/
def IsLastAlike (c : Combination) (e : String × Value) : Prop :=
  e ∈ c ∧ ∀ e' ∈ c, sanitize e'.1 = sanitize e.1 → e'.1 ≤ e.1

/-- The job is the built one, but for its name and for the variables of the combination. A variable
that was there keeps its place, and new ones come after the others. -/
structure IsPlaced (key : String) (c : Combination) (built job : Job) : Prop where
  name : job.name = .text key
  value : ∀ e, IsLastAlike c e → job.env.get? (matrixVar e.1) = some (.text e.2.display)
  other : ∀ x, x ∉ c.map (fun e => matrixVar e.1) → job.env.get? x = built.env.get? x
  vars : job.env.keys = (built.env.keys ++ c.map fun e => matrixVar e.1).eraseDups
  frame : { job with name := built.name, env := built.env } = built

/-- The names are those of the combinations in the order in which they come first, and under each of
them stands the job of the last combination that has it. -/
structure IsExpansion (name : String) (dims : Dimensions)
    (template : OrderedMap String Value → Except Failure Job) (jobs : OrderedMap String Job) :
    Prop where
  mem_keys_iff : ∀ key, key ∈ jobs.keys ↔ ∃ is c, Picks dims is c ∧ jobName name c = key
  ordered : jobs.keys.Pairwise fun a b =>
    ∃ is c, Picks dims is c ∧ jobName name c = a
      ∧ ∀ is' c', Picks dims is' c' → jobName name c' = b → is < is'
  job : ∀ key job, jobs.get? key = some job →
    ∃ is c built, Picks dims is c ∧ jobName name c = key
      ∧ (∀ is' c', Picks dims is' c' → jobName name c' = key → ¬ is < is')
      ∧ Gives template c (.ok built) ∧ IsPlaced key c built job

variable {name : String} {template : OrderedMap String Value → Except Failure Job}

/-! ## The run over all combinations

The combinations are built one after the other, and the jobs are put under their names in the same
order. The first failure ends it, and a later job replaces an earlier one of its name. -/

def placeAt (name : String) (template : OrderedMap String Value → Except Failure Job)
    (c : Combination) : Except Failure (String × Job) :=
  (template (.ofList c)).map fun built => (jobName name c, place (jobName name c) c built)

/-- One combination is built and written before the next is looked at. -/
theorem build_cons (c : Combination) (rest : List Combination) (jobs : OrderedMap String Job) :
    build (.ofJobs template) name (c :: rest) jobs =
      placeAt name template c >>= fun placed =>
        build (.ofJobs template) name rest (jobs.insert placed.1 placed.2) := by
  rw [build, placeAt]
  simp only [Builder.ofJobs]
  cases template (.ofList c) with
  | error e => rfl
  | ok built => rfl

/-- All jobs can be built first and written afterwards: a job that is built does not depend on those
that were written. Induction on the combinations. -/
theorem build_eq (cs : List Combination) (jobs : OrderedMap String Job) :
    build (.ofJobs template) name cs jobs =
      (cs.mapM (placeAt name template)).map fun placed =>
        placed.foldl (fun acc e => acc.insert e.1 e.2) jobs := by
  induction cs generalizing jobs with
  | nil => rfl
  | cons c rest ih =>
    rw [build_cons, List.mapM_cons]
    cases placeAt name template c with
    | error e => rfl
    | ok placed =>
      show build (.ofJobs template) name rest (jobs.insert placed.1 placed.2) = _
      rw [ih]
      cases rest.mapM (placeAt name template) with
      | error e => rfl
      | ok others => rfl

/-- A mapping whose keys are texts is read entry by entry. -/
theorem named?_matrix (entries : List (String × Value)) :
    named? (entries.map fun e => (.text e.1, e.2)) = some entries := by
  refine Success.mapM_map_eq_some ?_ entries
  exact fun _ => rfl

/-- All dimensions are read, then all jobs are built, and then they are written under their names. -/
theorem expandJobs_eq (hname : name ≠ "") (entries : List (String × Value)) :
    expandJobs name entries template =
      itemsOf (sorted entries) >>= fun dims =>
        ((combinations dims).mapM (placeAt name template)).map OrderedMap.ofList := by
  have hnonempty : ¬ name.isEmpty = true := fun h => hname (String.isEmpty_iff.mp h)
  unfold expandJobs expand matrixOf
  rw [if_neg hnonempty]
  simp only [named?_matrix, build_eq, funext OrderedMap.ofList_eq_foldl]

/-- The jobs stand under the names of their combinations. -/
theorem keys_of_mapM {cs : List Combination} {placed : List (String × Job)}
    (h : cs.mapM (placeAt name template) = .ok placed) :
    placed.map Prod.fst = cs.map (jobName name) := by
  induction cs generalizing placed with
  | nil =>
    cases h
    rfl
  | cons c rest ih =>
    obtain ⟨e, others, he, hothers, rfl⟩ := Success.mapM_cons_eq_ok.mp h
    obtain ⟨built, -, rfl⟩ := Success.map_eq_ok.mp he
    rw [List.map_cons, List.map_cons, ih hothers]

/-- The values of a combination make up a map, since the keys differ. So what the template gives can
be asked for by the map. -/
theorem gives_iff {c : Combination} (hkeys : (c.map Prod.fst).Pairwise (· < ·))
    {result : Except Failure Job} : Gives template c result ↔ template (.ofList c) = result := by
  constructor
  · rintro ⟨vars, rfl, hresult⟩
    rw [OrderedMap.ofList_entries]
    exact hresult
  · intro hresult
    exact ⟨.ofList c, OrderedMap.entries_ofList_of_nodup (nodup_of_pairwise_lt hkeys), hresult⟩

/-- A job cannot be placed exactly if the template fails for its combination. -/
theorem placeAt_eq_error_iff {c : Combination} (hkeys : (c.map Prod.fst).Pairwise (· < ·))
    {e : Failure} : placeAt name template c = .error e ↔ Gives template c (.error e) := by
  rw [gives_iff hkeys, placeAt]
  cases template (.ofList c) with
  | error e' => simp [Except.map]
  | ok built => simp [Except.map]

/-- A job can be placed exactly if the template builds it. -/
theorem exists_placeAt_eq_ok_iff {c : Combination} (hkeys : (c.map Prod.fst).Pairwise (· < ·)) :
    (∃ e, placeAt name template c = .ok e) ↔ ∃ built, Gives template c (.ok built) := by
  simp only [gives_iff hkeys, placeAt, Success.map_eq_ok]
  constructor
  · rintro ⟨_, built, hbuilt, -⟩
    exact ⟨built, hbuilt⟩
  · rintro ⟨built, hbuilt⟩
    exact ⟨_, built, hbuilt, rfl⟩

/-! ## The job of a combination -/

/-- Two dimensions have one variable if their names sanitize alike. -/
theorem matrixVar_eq_iff {k k' : String} : matrixVar k = matrixVar k' ↔ sanitize k = sanitize k' :=
  String.append_right_inj _

theorem keys_vars (c : Combination) : (vars c).keys = (c.map fun e => matrixVar e.1).eraseDups := by
  unfold vars
  rw [OrderedMap.keys_ofList, List.map_map]
  rfl

/-- A variable holds the value of the last of the dimensions that have it. -/
theorem get?_vars_of_isLastAlike {c : Combination} (hkeys : (c.map Prod.fst).Pairwise (· < ·))
    {e : String × Value} (h : IsLastAlike c e) :
    (vars c).get? (matrixVar e.1) = some (.text e.2.display) := by
  obtain ⟨hmem, hlast⟩ := h
  obtain ⟨front, rest, rfl⟩ := List.append_of_mem hmem
  rw [List.map_append, List.map_cons, List.pairwise_append, List.pairwise_cons] at hkeys
  refine OrderedMap.get?_ofList_eq_some_iff.mpr
    ⟨front.map fun e => (matrixVar e.1, .text e.2.display),
      rest.map fun e => (matrixVar e.1, .text e.2.display), ?_, ?_⟩
  · rw [List.map_append, List.map_cons]
  · -- a dimension that comes later has a greater name, so its variable is another one
    rw [List.map_map]
    intro hvar
    obtain ⟨e', he', hvar⟩ := List.mem_map.mp hvar
    have hle : e'.1 ≤ e.1 :=
      hlast e' (List.mem_append_right _ (List.mem_cons_of_mem _ he')) (matrixVar_eq_iff.mp hvar)
    exact hle (hkeys.2.1.1 e'.1 (List.mem_map_of_mem he'))

/-- The job that is written is the built one with its name and its variables, and with nothing else
changed. -/
theorem isPlaced_place {c : Combination} (hkeys : (c.map Prod.fst).Pairwise (· < ·)) (key : String)
    (built : Job) : IsPlaced key c built (place key c built) := by
  refine ⟨rfl, ?_, ?_, ?_, rfl⟩
  · intro e he
    show (built.env.insertAll (vars c)).get? (matrixVar e.1) = _
    rw [OrderedMap.get?_insertAll, get?_vars_of_isLastAlike hkeys he, Option.some_or]
  · intro x hx
    show (built.env.insertAll (vars c)).get? x = _
    have hnone : (vars c).get? x = none := by
      rw [OrderedMap.get?_eq_none_iff, keys_vars, List.mem_eraseDups]
      exact hx
    rw [OrderedMap.get?_insertAll, hnone, Option.none_or]
  · show (built.env.insertAll (vars c)).keys = _
    rw [OrderedMap.keys_insertAll, keys_vars, eraseDups_append_eraseDups]

/-! ## Names and jobs -/

section

variable {dims : Dimensions} {placed : List (String × Job)}

theorem mem_names_iff {key : String} :
    key ∈ (combinations dims).map (jobName name) ↔
      ∃ is c, Picks dims is c ∧ jobName name c = key := by
  rw [List.mem_map]
  constructor
  · rintro ⟨c, hc, hkey⟩
    obtain ⟨is, hpicks⟩ := mem_combinations_iff.mp hc
    exact ⟨is, c, hpicks, hkey⟩
  · rintro ⟨is, c, hpicks, hkey⟩
    exact ⟨c, mem_combinations_iff.mpr ⟨is, hpicks⟩, hkey⟩

/-- Of two names the one that comes first belongs to a combination before all of those that have the
other. -/
theorem exists_picks_of_firstBefore {a b : String}
    (h : FirstBefore ((combinations dims).map (jobName name)) a b) :
    ∃ is c, Picks dims is c ∧ jobName name c = a
      ∧ ∀ is' c', Picks dims is' c' → jobName name c' = b → is < is' := by
  obtain ⟨front, rest, hnames, hb, hab⟩ := h
  obtain ⟨before, _, hsplit, rfl, htail⟩ := List.map_eq_append_iff.mp hnames
  obtain ⟨c, after, rfl, rfl, -⟩ := List.map_eq_cons_iff.mp htail
  obtain ⟨is, hpicks, hsplits⟩ := exists_picks_of_split hsplit
  refine ⟨is, c, hpicks, rfl, fun is' c' hpicks' hname => ?_⟩
  -- where the first name comes in, no combination before has the second one
  rcases hsplits.compare is' c' hpicks' with hlt | rfl | hlt
  · have hc' : c' ∈ before := (hsplits.before_iff c').mpr ⟨is', hpicks', hlt⟩
    exact absurd (List.mem_map.mpr ⟨c', hc', hname⟩) hb
  · cases hpicks.unique hpicks'
    exact absurd hname hab
  · exact hlt

/-- Under a name stands the job of the last combination that has it: the jobs are written one after
the other. -/
theorem exists_picks_of_get? (h : (combinations dims).mapM (placeAt name template) = .ok placed)
    {key : String} {job : Job} (hjob : (OrderedMap.ofList placed).get? key = some job) :
    ∃ is c built, Picks dims is c ∧ jobName name c = key
      ∧ (∀ is' c', Picks dims is' c' → jobName name c' = key → ¬ is < is')
      ∧ template (.ofList c) = .ok built ∧ job = place key c built := by
  obtain ⟨front, back, rfl, hback⟩ := OrderedMap.get?_ofList_eq_some_iff.mp hjob
  obtain ⟨before, c, after, hsplit, hc, hafter⟩ := Success.mapM_eq_ok_split h
  obtain ⟨built, hbuilt, heq⟩ := Success.map_eq_ok.mp hc
  cases heq
  obtain ⟨is, hpicks, hsplits⟩ := exists_picks_of_split hsplit
  refine ⟨is, c, built, hpicks, rfl, fun is' c' hpicks' hname hlt => ?_, hbuilt, rfl⟩
  -- the job of a later combination would have been written over this one
  have hc' : c' ∈ after := (hsplits.after_iff c').mpr ⟨is', hpicks', hlt⟩
  rw [keys_of_mapM hafter] at hback
  exact hback (List.mem_map.mpr ⟨c', hc', hname⟩)

/-- If the template builds all jobs, the jobs that were written are those of `IsExpansion`. -/
theorem isExpansion_of_mapM (hdims : (dims.map Prod.fst).Pairwise (· < ·))
    (h : (combinations dims).mapM (placeAt name template) = .ok placed) :
    IsExpansion name dims template (OrderedMap.ofList placed) := by
  refine ⟨fun key => ?_, ?_, ?_⟩
  · rw [OrderedMap.keys_ofList, List.mem_eraseDups, keys_of_mapM h, mem_names_iff]
  · rw [OrderedMap.keys_ofList, keys_of_mapM h]
    exact (pairwise_eraseDups _).imp exists_picks_of_firstBefore
  · intro key job hjob
    obtain ⟨is, c, built, hpicks, hkey, hlast, hbuilt, rfl⟩ := exists_picks_of_get? h hjob
    have hkeys : (c.map Prod.fst).Pairwise (· < ·) := hpicks.keys ▸ hdims
    exact ⟨is, c, built, hpicks, hkey, hlast, (gives_iff hkeys).mpr hbuilt,
      isPlaced_place hkeys key built⟩

/-- If the template fails for some combination, the failure is that of the first of these, in the
order of indices. -/
theorem mapM_eq_error_iff (hdims : (dims.map Prod.fst).Pairwise (· < ·)) {e : Failure} :
    (combinations dims).mapM (placeAt name template) = .error e ↔ FailsFirst template dims e := by
  have hkeys : ∀ {is c}, Picks dims is c → (c.map Prod.fst).Pairwise (· < ·) :=
    fun hpicks => hpicks.keys ▸ hdims
  rw [Success.mapM_eq_error]
  constructor
  · rintro ⟨before, c, after, hsplit, hbefore, hc⟩
    obtain ⟨is, hpicks, hsplits⟩ := exists_picks_of_split hsplit
    refine ⟨is, c, hpicks, (placeAt_eq_error_iff (hkeys hpicks)).mp hc, fun is' c' hpicks' hlt => ?_⟩
    have hc' : c' ∈ before := (hsplits.before_iff c').mpr ⟨is', hpicks', hlt⟩
    exact (exists_placeAt_eq_ok_iff (hkeys hpicks')).mp (hbefore c' hc')
  · rintro ⟨is, c, hpicks, hc, hearlier⟩
    obtain ⟨before, after, hsplit, hsplits⟩ := exists_split_of_picks hpicks
    refine ⟨before, c, after, hsplit, fun c' hc' => ?_, (placeAt_eq_error_iff (hkeys hpicks)).mpr hc⟩
    obtain ⟨is', hpicks', hlt⟩ := (hsplits.before_iff c').mp hc'
    exact (exists_placeAt_eq_ok_iff (hkeys hpicks')).mpr (hearlier is' c' hpicks' hlt)

end

/-! ## The result of a matrix -/

section

variable {entries : List (String × Value)}

variable (template) in
theorem exists_expandJobs_eq (hname : name ≠ "") (hkeys : (entries.map Prod.fst).Nodup)
    (hitems : ∀ e ∈ entries, ∃ items, e.2.items = .ok items) :
    ∃ dims, IsReadAs entries dims ∧ expandJobs name entries template =
      ((combinations dims).mapM (placeAt name template)).map OrderedMap.ofList := by
  have hsorted : ∀ e ∈ sorted entries, ∃ items, e.2.items = .ok items := fun e he =>
    hitems e ((List.mergeSort_perm entries _).mem_iff.mp he)
  obtain ⟨dims, hdims⟩ := exists_itemsOf_eq_ok hsorted
  refine ⟨dims, isReadAs_of_itemsOf hkeys hdims, ?_⟩
  rw [expandJobs_eq hname, hdims]
  rfl

/-- If the template builds a job for every combination, the matrix has an expansion. -/
theorem exists_isExpansion {dims : Dimensions} (hread : IsReadAs entries dims)
    (hrun : expandJobs name entries template =
      ((combinations dims).mapM (placeAt name template)).map OrderedMap.ofList)
    (hbuilt : ∀ is c, Picks dims is c → ∃ built, Gives template c (.ok built)) :
    ∃ jobs, expandJobs name entries template = .ok jobs
      ∧ IsExpansion name dims template jobs := by
  obtain ⟨placed, hplaced⟩ : ∃ placed,
      (combinations dims).mapM (placeAt name template) = .ok placed := by
    refine Success.exists_mapM_eq_ok fun c hc => ?_
    obtain ⟨is, hpicks⟩ := mem_combinations_iff.mp hc
    exact (exists_placeAt_eq_ok_iff (hpicks.keys ▸ hread.ordered)).mpr (hbuilt is c hpicks)
  refine ⟨.ofList placed, ?_, isExpansion_of_mapM hread.ordered hplaced⟩
  rw [hrun, hplaced]
  rfl

variable (template) in
/-- **The jobs of a matrix.** If the template fails for a combination, the matrix fails as the first
of them; or else there is a job under every name that the combinations have. The order of the
mapping does not matter, since the dimensions are sorted by their keys before they are combined. -/
theorem expandJobs_outcome (hname : name ≠ "") (hkeys : (entries.map Prod.fst).Nodup)
    (hitems : ∀ e ∈ entries, ∃ items, e.2.items = .ok items) :
    ∃ dims, IsReadAs entries dims
      ∧ (∀ e, expandJobs name entries template = .error e ↔ FailsFirst template dims e)
      ∧ ((∀ is c, Picks dims is c → ∃ built, Gives template c (.ok built)) →
          ∃ jobs, expandJobs name entries template = .ok jobs ∧ IsExpansion name dims template jobs)
      ∧ ∀ entries', entries'.Perm entries →
          expandJobs name entries' template = expandJobs name entries template := by
  obtain ⟨dims, hread, hrun⟩ := exists_expandJobs_eq template hname hkeys hitems
  refine ⟨dims, hread, fun e => ?_, exists_isExpansion hread hrun, fun entries' hperm => ?_⟩
  · have hfails : (combinations dims).mapM (placeAt name template) = .error e ↔
        FailsFirst template dims e := mapM_eq_error_iff hread.ordered
    rw [hrun, ← hfails]
    cases (combinations dims).mapM (placeAt name template) with
    | error e' => simp [Except.map]
    | ok placed => simp [Except.map]
  · rw [expandJobs_eq hname, expandJobs_eq hname, sorted_eq_of_perm hkeys hperm]

end

/-! ## Templates among other objects -/

/-- A template that builds jobs gives the same jobs where any object may be built. -/
theorem expand_matrixBuilder (name : String) (entries : List (String × Value)) :
    expand name (matrixOf entries)
        (.function (Object.matrixBuilder fun vars => (template vars).map .job)) =
      (expandJobs name entries template).map fun jobs => jobs.map fun _ job => .job job := by
  have hbuild : ∀ cs jobs,
      build (Object.matrixBuilder fun vars => (template vars).map .job) name cs
          (jobs.map fun _ job => .job job) =
        (build (.ofJobs template) name cs jobs).map fun jobs => jobs.map fun _ job => .job job := by
    intro cs
    induction cs with
    | nil => exact fun jobs => rfl
    | cons c rest ih =>
      intro jobs
      rw [build_cons, placeAt, build]
      simp only [Object.matrixBuilder]
      cases template (.ofList c) with
      | error e => rfl
      | ok built =>
        -- the job is written into the map of jobs or into that of objects, which is the same
        refine Eq.trans ?_ (ih (jobs.insert (jobName name c) (place (jobName name c) c built)))
        rw [← OrderedMap.insert_map]
        rfl
  unfold expandJobs expand matrixOf
  by_cases hname : name.isEmpty = true
  · rw [if_pos hname, if_pos hname]
    rfl
  · rw [if_neg hname, if_neg hname]
    simp only [named?_matrix]
    cases itemsOf (sorted entries) with
    | error e => rfl
    | ok dims => exact hbuild (combinations dims) ∅

/-! ## Two versions on one system -/

/-- The matrix lists the system before the versions. -/
def nodeEntries : List (String × Value) :=
  [("os", .list [.text "ubuntu"]), ("node", .list [.text "18", .text "20"])]

def runJob (name command : String) : Job where
  name := .text name
  executor := .text "local"
  steps := [Step.plain (.text command) (.text command)]
  outputs := ∅
  inputs := []
  needs := []
  env := ∅
  envFrom := []
  condition := .null
  continueOnError := .bool false
  retry := .null
  timeout := .null
  info := none

/-- The dimensions in the order of their names, and not as they are listed. -/
theorem isReadAs_nodeEntries :
    IsReadAs nodeEntries [("node", [.text "18", .text "20"]), ("os", [.text "ubuntu"])] :=
  isReadAs_of_perm (List.reverse_perm nodeEntries) (by decide) rfl

/-- A matrix of two versions and one system, whose order does not matter. -/
theorem expandJobs_outcome_node :
    ∃ jobs, expandJobs "test" nodeEntries (fun _ => .ok (runJob "test" "make")) = .ok jobs
      ∧ expandJobs "test" nodeEntries.reverse (fun _ => .ok (runJob "test" "make")) = .ok jobs
      ∧ "test-node-20-os-ubuntu" ∈ jobs.keys := by
  have hname : "test" ≠ "" := by decide
  have hitems : ∀ e ∈ nodeEntries, ∃ items, e.2.items = .ok items := by
    intro e he
    rcases List.mem_cons.mp he with rfl | he
    · exact ⟨_, rfl⟩
    · cases List.mem_singleton.mp he
      exact ⟨_, rfl⟩
  obtain ⟨dims, hread, -, hsuccess, hperm⟩ :=
    expandJobs_outcome (fun _ => .ok (runJob "test" "make")) hname (by decide) hitems
  cases hread.unique isReadAs_nodeEntries
  obtain ⟨jobs, hjobs, hexpansion⟩ := hsuccess fun _ _ hpicks =>
    ⟨_, (gives_iff (hpicks.keys ▸ hread.ordered)).mpr rfl⟩
  refine ⟨jobs, hjobs, (hperm _ (List.reverse_perm _)).trans hjobs, ?_⟩
  refine (hexpansion.mem_keys_iff _).mpr
    ⟨[1, 0], [("node", .text "20"), ("os", .text "ubuntu")], ?_, by decide⟩
  exact .cons rfl (.cons rfl .nil)

end ShellFlow.Matrix

import ShellFlow.JobTemplate
import ShellFlow.Proofs.FirstOccurrence
import ShellFlow.Proofs.Success

/-!
# Collisions of step names

The variables of a step begin with its stem, the sanitized name. The scan for collisions walks over
the steps with a counter and keeps pairs of stems and positions; here it is tied to what the steps
are at their positions.

* **`actionNames_eq_ok_iff`** — the pairs that the scan keeps, by induction on the steps.
* **`nameCollisions_eq_ok_iff`** — the collisions that the scan reports.
* **`collisions_eq_nil_iff`** — there are none exactly if no two positions have one stem.
-/

namespace ShellFlow

/-- The part of the variables of a step that is made of its name, if an action made the step. -/
def Step.stem? (step : Step) : Option String :=
  match step.action with
  | none => none
  | some _ => step.name.text?.map sanitize

def NamedByTexts (steps : List Step) : Prop :=
  ∀ step ∈ steps, step.action.isSome = true → ∃ name, step.name = .text name

def stems (steps : List Step) : List String := steps.filterMap Step.stem?

/-- The positions of the action steps with a stem, in order. -/
def stemPositions (stem : String) (steps : List Step) : List Nat :=
  (steps.zipIdx.filter fun e => e.1.stem? == some stem).map Prod.snd

/-- No two action steps have the same stem. -/
def DistinctStems (steps : List Step) : Prop :=
  ∀ (i j : Nat) (s t : Step) (stem : String), steps[i]? = some s → steps[j]? = some t →
    s.stem? = some stem → t.stem? = some stem → i = j

/-- One collision for each stem that stands at several positions, in the order in which the stems
come first, each with all its positions. -/
def collisions (job : Label) (steps : List Step) : List Failure :=
  ((stems steps).eraseDups.filter fun stem => 1 < (stemPositions stem steps).length).map fun stem =>
    .generatedNameCollision job (.text stem) (.text ("STEP_OUTPUT_" ++ stem))
      ((stemPositions stem steps).map fun i => .int (Int.ofNat i))

/-! ## Stems -/

/-- A step that no action made writes no variables. -/
theorem Step.stem?_of_action_none {step : Step} (h : step.action = none) : step.stem? = none := by
  simp [Step.stem?, h]

theorem Step.stem?_of_name {step : Step} {name : String} (haction : step.action.isSome = true)
    (hname : step.name = .text name) : step.stem? = some (sanitize name) := by
  obtain ⟨info, hinfo⟩ := Option.isSome_iff_exists.mp haction
  simp [Step.stem?, hinfo, hname, Value.text?]

/-- The stems and positions that the scan keeps from position `i` on. -/
def stemsFrom (i : Nat) (steps : List Step) : List (String × Nat) :=
  (steps.zipIdx i).filterMap fun e => e.1.stem?.map fun stem => (stem, e.2)

/-- The first step and the rest: this is the step of the inductions on what the scan keeps. -/
theorem stemsFrom_cons (i : Nat) (step : Step) (rest : List Step) :
    stemsFrom i (step :: rest) =
      (step.stem?.map fun stem => (stem, i)).toList ++ stemsFrom (i + 1) rest := by
  unfold stemsFrom
  rw [List.zipIdx_cons, List.filterMap_cons]
  cases step.stem? with
  | none => rfl
  | some stem => rfl

theorem map_fst_stemsFrom (i : Nat) (steps : List Step) :
    (stemsFrom i steps).map Prod.fst = stems steps := by
  induction steps generalizing i with
  | nil => rfl
  | cons step rest ih =>
    rw [stemsFrom_cons, List.map_append, ih (i + 1), stems, stems, List.filterMap_cons]
    cases step.stem? with
    | none => rfl
    | some stem => rfl

/-- The positions that the scan finds for a stem are those of the steps with the stem. Induction on
the steps. -/
theorem positionsOf_stemsFrom (stem : String) (i : Nat) (steps : List Step) :
    positionsOf stem (stemsFrom i steps) =
      ((steps.zipIdx i).filter fun e => e.1.stem? == some stem).map Prod.snd := by
  induction steps generalizing i with
  | nil => rfl
  | cons step rest ih =>
    have hrest := ih (i + 1)
    unfold positionsOf at hrest ⊢
    rw [stemsFrom_cons, List.filter_append, List.map_append, hrest, List.zipIdx_cons,
      List.filter_cons]
    cases step.stem? with
    | none => simp
    | some other =>
      by_cases heq : other = stem
      · simp [heq]
      · simp [heq]

/-! ## The scan -/

/-- The scan succeeds if the names of the action steps are texts, and it keeps the stems with their
positions. Induction on the steps. -/
theorem actionNames_eq_ok_iff {i : Nat} {steps : List Step} {named : List (String × Nat)} :
    actionNames i steps = .ok named ↔ NamedByTexts steps ∧ named = stemsFrom i steps := by
  induction steps generalizing i named with
  | nil =>
    constructor
    · intro h
      cases h
      exact ⟨fun step hstep => absurd hstep List.not_mem_nil, rfl⟩
    · rintro ⟨-, rfl⟩
      rfl
  | cons step rest ih =>
    have hsplit : NamedByTexts (step :: rest) ↔
        (step.action.isSome = true → ∃ name, step.name = .text name) ∧ NamedByTexts rest :=
      List.forall_mem_cons
    rw [hsplit, stemsFrom_cons, actionNames]
    cases haction : step.action with
    | none =>
      -- no action made the step, so its name may be anything
      rw [Step.stem?_of_action_none haction]
      simpa using ih
    | some info =>
      have hsome : step.action.isSome = true := by rw [haction]; rfl
      simp only [Success.bind_eq_ok, variablePart_eq_ok_iff, ih]
      constructor
      · rintro ⟨name, hname, _, ⟨hrest, rfl⟩, h⟩
        injection h with h
        rw [Step.stem?_of_name hsome hname]
        exact ⟨⟨fun _ => ⟨name, hname⟩, hrest⟩, h.symm⟩
      · rintro ⟨⟨hhead, hrest⟩, rfl⟩
        obtain ⟨name, hname⟩ := hhead rfl
        rw [Step.stem?_of_name hsome hname]
        exact ⟨name, hname, _, ⟨hrest, rfl⟩, rfl⟩

/-- From the stems and positions that it has kept, the scan makes one collision for each stem that
several steps have. -/
theorem sharedNames_stemsFrom (job : Label) (steps : List Step) :
    sharedNames job (stemsFrom 0 steps) = collisions job steps := by
  have hpositions : ∀ stem, positionsOf stem (stemsFrom 0 steps) = stemPositions stem steps :=
    fun stem => positionsOf_stemsFrom stem 0 steps
  unfold sharedNames collisions
  simp only [map_fst_stemsFrom, hpositions]
  induction (stems steps).eraseDups with
  | nil => rfl
  | cons stem rest ih =>
    rw [List.filterMap_cons, ih, List.filter_cons]
    by_cases hmany : 1 < (stemPositions stem steps).length
    · simp [hmany]
    · simp [hmany]

/-- The scan succeeds if the names of the action steps are texts, and then it reports the
collisions of the steps. -/
theorem nameCollisions_eq_ok_iff {job : Label} {steps : List Step} {issues : List Failure} :
    nameCollisions job steps = .ok issues ↔ NamedByTexts steps ∧ issues = collisions job steps := by
  unfold nameCollisions
  rw [Success.map_eq_ok]
  constructor
  · rintro ⟨named, hnamed, rfl⟩
    obtain ⟨htexts, rfl⟩ := actionNames_eq_ok_iff.mp hnamed
    exact ⟨htexts, sharedNames_stemsFrom job steps⟩
  · rintro ⟨htexts, rfl⟩
    exact ⟨stemsFrom 0 steps, actionNames_eq_ok_iff.mpr ⟨htexts, rfl⟩, sharedNames_stemsFrom job steps⟩

/-! ## Steps without collisions -/

/-- A stem stands at as many positions as it is counted. -/
theorem length_stemPositions (stem : String) (steps : List Step) :
    (stemPositions stem steps).length = (stems steps).count stem := by
  have hcount : ∀ i, (((steps.zipIdx i).filter fun e => e.1.stem? == some stem).map Prod.snd).length
      = (stems steps).count stem := by
    intro i
    rw [← positionsOf_stemsFrom, ← map_fst_stemsFrom i, positionsOf, List.length_map,
      List.count_eq_countP, List.countP_map, List.countP_eq_length_filter]
    rfl
  exact hcount 0

/-- That no stem is repeated says the same as that no two action steps have the same stem. -/
theorem nodup_stems_iff {steps : List Step} : (stems steps).Nodup ↔ DistinctStems steps := by
  unfold stems List.Nodup
  rw [List.pairwise_filterMap, List.pairwise_iff_getElem]
  constructor
  · intro h i j s t stem hi hj hs ht
    obtain ⟨hilt, rfl⟩ := List.getElem?_eq_some_iff.mp hi
    obtain ⟨hjlt, rfl⟩ := List.getElem?_eq_some_iff.mp hj
    rcases Nat.lt_trichotomy i j with hlt | heq | hgt
    · exact absurd rfl (h i j hilt hjlt hlt stem hs stem ht)
    · exact heq
    · exact absurd rfl (h j i hjlt hilt hgt stem ht stem hs)
  · intro h i j hi hj hlt stem hs stem' ht heq
    subst heq
    have hsame := h i j _ _ stem (List.getElem?_eq_getElem hi) (List.getElem?_eq_getElem hj) hs ht
    exact absurd hsame (Nat.ne_of_lt hlt)

/-- No collision is reported exactly if the stems of the action steps are pairwise distinct. -/
theorem collisions_eq_nil_iff {job : Label} {steps : List Step} :
    collisions job steps = [] ↔ DistinctStems steps := by
  rw [← nodup_stems_iff, collisions, List.map_eq_nil_iff]
  simp only [length_stemPositions]
  exact repeatedItems_eq_nil_iff

end ShellFlow

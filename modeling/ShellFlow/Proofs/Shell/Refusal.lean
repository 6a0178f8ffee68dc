import ShellFlow.Proofs.Shell.FilledLists

/-!
# Values without a text

There are three ways to write a value in a script: quoted, unquoted, and in an assignment. The first
two go item by item and the third flattens a list with a reference in it first. All of them come to
the leaves in the same order, and whether a leaf has a text does not depend on the way. So they
refuse the same values, for the same leaf.

* **`requireText`** — the check of one leaf.
* **`outcome_toShell`**, **`outcome_assignment`** — what becomes of a value is what becomes of its
  leaves, checked one by one.
* **`forM_eq_error`** — a row of checks that fails has a first one that does.
* **`refusals_agree`** — the three ways, for every value.
-/

namespace ShellFlow.Shell

open Value

/-- Whether a computation succeeds, and its failure if it does not. -/
def outcome {α : Type} (x : Except Failure α) : Except Failure Unit := x.map fun _ => ()

/-- Refuses a leaf of a kind that has no text. -/
def requireText (leaf : Value) : Except Failure Unit :=
  if leaf.hasShellText then .ok () else .error (.unsupportedValueKind leaf)

/-! ## Outcomes -/

theorem outcome_eq_ok {α : Type} {x : Except Failure α} : outcome x = .ok () ↔ ∃ a, x = .ok a := by
  cases x <;> simp [outcome, Except.map]

theorem outcome_eq_error {α : Type} {x : Except Failure α} {f : Failure} :
    outcome x = .error f ↔ x = .error f := by
  cases x <;> simp [outcome, Except.map]

/-- What is done with a text once it is there does not matter for whether it is there. The writers
differ in just this. -/
theorem outcome_bind_ok {α β : Type} (x : Except Failure α) (g : α → β) :
    outcome (do .ok (g (← x))) = outcome x := by
  cases x <;> rfl

theorem forM_cons {f : Value → Except Failure Unit} {v : Value} {l : List Value} :
    (v :: l).forM f = (do f v; l.forM f) := rfl

/-- A row of computations comes to what the first that fails comes to. -/
theorem outcome_mapM (f : Value → Except Failure String) (l : List Value) :
    outcome (l.mapM f) = l.forM fun v => outcome (f v) := by
  induction l with
  | nil => rfl
  | cons v rest ih =>
    rw [List.mapM_cons, forM_cons, ← ih]
    cases f v with
    | error e => rfl
    | ok s => cases rest.mapM f <;> rfl

theorem forM_congr {f g : Value → Except Failure Unit} {l : List Value} (h : ∀ v ∈ l, f v = g v) :
    l.forM f = l.forM g := by
  induction l with
  | nil => rfl
  | cons v rest ih =>
    have hrest := ih fun u hu => h u (List.mem_cons_of_mem _ hu)
    rw [forM_cons, forM_cons, h v List.mem_cons_self, hrest]

/-- Checking the parts of all items, flattened into one list, is checking the items one after the
other, each by its parts. -/
theorem forM_flatMap (f : Value → Except Failure Unit) (parts : Value → List Value)
    (l : List Value) : (l.flatMap parts).forM f = l.forM fun v => (parts v).forM f := by
  induction l with
  | nil => rfl
  | cons v rest ih =>
    rw [forM_cons, ← ih, List.flatMap_cons]
    exact List.forM_append

/-! ## The three ways -/

/-- A leaf has a text in either mode, or in none. -/
theorem outcome_toShell_leaf (quoted : Bool) {leaf : Value} (h : leaf.isSequence = false) :
    outcome (toShell quoted leaf) = requireText leaf := by
  cases leaf with
  | list _ | tuple _ => cases h
  | bool b => cases b <;> rfl
  | null | int _ | float _ | text _ | mapping _ | path _ | bytes _ | object _ _ | struct _ _ _
  | noDefault | reference _ => rfl

/-- **Quoted and unquoted, a value comes to what the checks of its leaves come to.** Induction on
the nesting: a list is written item by item, and by `forM_flatMap` this visits the leaves in the
same order as the flattened list does. -/
theorem outcome_toShell (quoted : Bool) (v : Value) :
    outcome (toShell quoted v) = v.leaves.forM requireText := by
  induction v using sequenceInduction with
  | list items ih | tuple items ih =>
    simp only [toShell, outcome_bind_ok, toShellItems_eq_mapM, outcome_mapM, leaves_list,
      leaves_tuple, forM_flatMap]
    exact forM_congr ih
  | leaf v h =>
    rw [outcome_toShell_leaf quoted h, leaves_of_not_isSequence h, forM_cons]
    cases requireText v <;> rfl

/-- A leaf in an assignment is the quoted leaf, with a mark that makes it a word. -/
theorem outcome_leafWord {leaf : Value} (h : leaf.isSequence = false) :
    outcome (leafWord leaf) = requireText leaf := by
  rw [leafWord, outcome_bind_ok, outcome_toShell_leaf true h]

/-- **An assignment comes to the same checks.** Of its three paths, a single reference never fails,
a list with references is flattened and written leaf by leaf, and any other value is written
unquoted. -/
theorem outcome_assignment (var : String) (v : Value) :
    outcome (assignment var v) = v.leaves.forM requireText := by
  rw [assignment, outcome_bind_ok]
  unfold assignedWord
  split
  · rfl
  · split
    · -- the leaves one by one, flattened
      rw [outcome_bind_ok, outcome_mapM]
      exact forM_congr fun leaf hleaf => outcome_leafWord (v.isSequence_of_mem_leaves leaf hleaf)
    · rw [outcome_bind_ok, outcome_toShell]

/-! ## The first leaf without a text -/

theorem requireText_eq_ok {leaf : Value} :
    requireText leaf = .ok () ↔ leaf.hasShellText = true := by
  unfold requireText
  cases leaf.hasShellText <;> simp

/-- The check of a leaf fails in one way only, and the failure names the leaf. -/
theorem requireText_eq_error {leaf : Value} {f : Failure} :
    requireText leaf = .error f ↔
      leaf.hasShellText = false ∧ f = .unsupportedValueKind leaf := by
  unfold requireText
  cases leaf.hasShellText <;> simp [eq_comm]

/-- A row of checks fails with the first check that fails. -/
theorem forM_eq_error {f : Value → Except Failure Unit} {l : List Value} {e : Failure}
    (h : l.forM f = .error e) :
    ∃ before v after, l = before ++ v :: after ∧ (∀ u ∈ before, f u = .ok ()) ∧ f v = .error e := by
  induction l with
  | nil => cases h
  | cons v rest ih =>
    rw [forM_cons] at h
    cases hv : f v with
    | error e' =>
      rw [hv] at h
      cases h
      exact ⟨[], v, rest, rfl, by simp, hv⟩
    | ok _ =>
      rw [hv] at h
      obtain ⟨before, u, after, rfl, hbefore, hu⟩ := ih h
      exact ⟨v :: before, u, after, rfl, List.forall_mem_cons.mpr ⟨hv, hbefore⟩, hu⟩

/-- **Quoted, unquoted and in an assignment, a value either has a text in all three ways, or is
refused in all three for its first leaf of a kind that has none.** There is no other failure; in
particular no reference is ever of an unknown kind. All three come to the same checks of the same
leaves, so the cases are those of the checks. -/
theorem refusals_agree (var : String) (v : Value) :
    ((v.IsSupported ∧ (∃ s, toShell true v = .ok s) ∧ (∃ s, toShell false v = .ok s)
        ∧ ∃ line, assignment var v = .ok line)
      ∨ ∃ before leaf after, v.leaves = before ++ leaf :: after
          ∧ (∀ earlier ∈ before, earlier.hasShellText = true) ∧ leaf.hasShellText = false
          ∧ toShell true v = .error (.unsupportedValueKind leaf)
          ∧ toShell false v = .error (.unsupportedValueKind leaf)
          ∧ assignment var v = .error (.unsupportedValueKind leaf))
    ∧ ∀ value, toShell true v ≠ .error (.unknownReferenceKind value)
        ∧ toShell false v ≠ .error (.unknownReferenceKind value)
        ∧ assignment var v ≠ .error (.unknownReferenceKind value) := by
  cases hcheck : v.leaves.forM requireText with
  | ok _ =>
    have hall : v.IsSupported := fun leaf hleaf =>
      requireText_eq_ok.mp (Success.forM_eq_ok.mp hcheck leaf hleaf)
    obtain ⟨s, hs⟩ := outcome_eq_ok.mp ((outcome_toShell true v).trans hcheck)
    obtain ⟨t, ht⟩ := outcome_eq_ok.mp ((outcome_toShell false v).trans hcheck)
    obtain ⟨line, hline⟩ := outcome_eq_ok.mp ((outcome_assignment var v).trans hcheck)
    refine ⟨Or.inl ⟨hall, ⟨s, hs⟩, ⟨t, ht⟩, line, hline⟩, fun value => ?_⟩
    rw [hs, ht, hline]
    exact ⟨nofun, nofun, nofun⟩
  | error f =>
    obtain ⟨before, leaf, after, hleaves, hbefore, hfailed⟩ := forM_eq_error hcheck
    obtain ⟨hleaf, rfl⟩ := requireText_eq_error.mp hfailed
    have hs := outcome_eq_error.mp ((outcome_toShell true v).trans hcheck)
    have ht := outcome_eq_error.mp ((outcome_toShell false v).trans hcheck)
    have hline := outcome_eq_error.mp ((outcome_assignment var v).trans hcheck)
    refine ⟨Or.inr ⟨before, leaf, after, hleaves, ?_, hleaf, hs, ht, hline⟩, fun value => ?_⟩
    · exact fun earlier hearlier => requireText_eq_ok.mp (hbefore earlier hearlier)
    · rw [hs, ht, hline]
      refine ⟨?_, ?_, ?_⟩ <;> simp

/-- Of two leaves without a text the first one counts, also where the other stands less deep. -/
example : toShell true (.list [.text "a", .tuple [.bytes "b"], .noDefault]) =
    .error (.unsupportedValueKind (.bytes "b")) := rfl

end ShellFlow.Shell

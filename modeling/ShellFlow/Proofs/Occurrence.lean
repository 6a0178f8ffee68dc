import ShellFlow.Proofs.Leaves
import ShellFlow.Validation

/-!
# References in values

A reference occurs in a value if it is the value or occurs in an item of a list or tuple. The checks
and the rendering go by the leaves of a value instead; `mem_leaves_iff` ties the two.
-/

namespace ShellFlow

/-- A reference is the value, or occurs in an item of it at any depth. -/
inductive OccursIn (r : Reference) : Value → Prop
  | here : OccursIn r (.reference r)
  | inList {items : List Value} {item : Value} :
      item ∈ items → OccursIn r item → OccursIn r (.list items)
  | inTuple {items : List Value} {item : Value} :
      item ∈ items → OccursIn r item → OccursIn r (.tuple items)

/-- What occurs in a value is one of its leaves, by induction on the way to it. -/
theorem OccursIn.mem_leaves {r : Reference} {v : Value} (h : OccursIn r v) :
    Value.reference r ∈ v.leaves := by
  induction h with
  | here => exact List.mem_singleton_self _
  | inList hitem _ ih | inTuple hitem _ ih => simpa using ⟨_, hitem, ih⟩

/-- A leaf that is a reference occurs in the value, by induction on the value. -/
theorem OccursIn.of_mem_leaves {r : Reference} (v : Value) (h : Value.reference r ∈ v.leaves) :
    OccursIn r v := by
  induction v using Value.sequenceInduction with
  | list items ih =>
    obtain ⟨item, hitem, hleaf⟩ := List.mem_flatMap.mp (Value.leaves_list items ▸ h)
    exact .inList hitem (ih item hitem hleaf)
  | tuple items ih =>
    obtain ⟨item, hitem, hleaf⟩ := List.mem_flatMap.mp (Value.leaves_tuple items ▸ h)
    exact .inTuple hitem (ih item hitem hleaf)
  | leaf v hv =>
    rw [Value.leaves_of_not_isSequence hv, List.mem_singleton] at h
    subst h
    exact .here

/-- The leaves of a value that are references are those that occur in it. -/
theorem mem_leaves_iff {r : Reference} {v : Value} :
    Value.reference r ∈ v.leaves ↔ OccursIn r v :=
  ⟨OccursIn.of_mem_leaves v, OccursIn.mem_leaves⟩

/-- The steps and outputs to which the leaves of a value refer, from left to right. -/
def stepOutputs (v : Value) : List (String × String) :=
  v.leaves.filterMap fun
    | .reference (.stepOutput step output) => some (step, output)
    | _ => none

/-- The outputs that a value refers to are those of the references in it. -/
theorem mem_stepOutputs_iff {step output : String} {v : Value} :
    (step, output) ∈ stepOutputs v ↔ OccursIn (.stepOutput step output) v := by
  rw [← mem_leaves_iff, stepOutputs, List.mem_filterMap]
  constructor
  · rintro ⟨leaf, hleaf, h⟩
    split at h
    · cases h
      exact hleaf
    · cases h
  · intro h
    exact ⟨_, h, rfl⟩

/-- The steps that a check looks for are those of these outputs, with repetitions. -/
theorem referredSteps_eq_map (v : Value) :
    Validation.referredSteps v = (stepOutputs v).map Prod.fst := by
  unfold Validation.referredSteps stepOutputs
  rw [List.map_filterMap]
  congr 1
  funext leaf
  split <;> simp_all

end ShellFlow

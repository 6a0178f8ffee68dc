import Mathlib.Data.List.Induction
import Mathlib.Data.List.Nodup
import Mathlib.Data.Nat.SuccPred
import Mathlib.Order.Nat

/-!
# First occurrences

A list from which the repetitions are dropped keeps every item at the place of its first occurrence.
So its order is that of the first occurrences in the list it was made from, and this order together
with the items says what the list is.

* **`firstBefore_append_iff`** — the order in two lists, one behind the other.
* **`firstBefore_of_filterMap`** — the order is that of a longer list, if no occurrence is left out.
* **`firstBefore_filterMap_iff`** — the order, by the positions at which the items are read.
* **`pairwise_zipIdx`** — the positions of a list stand in order.
* **`firstBefore_eraseDups_iff`**, **`pairwise_eraseDups`** — the order of a list without its
  repetitions.
* **`eq_of_firstBefore`** — the items and their order say what such a list is.
* **`repeatedItems_eq_nil_iff`** — a list has no repetitions if no item is counted twice.
-/

namespace ShellFlow

variable {α β : Type}

/-- The first occurrence of `a` comes before all occurrences of `b`. -/
def FirstBefore (l : List α) (a b : α) : Prop :=
  ∃ front rest, l = front ++ a :: rest ∧ b ∉ front ∧ a ≠ b

/-- The step of all inductions on the list below: the first item is `a`, or it is not `b` and the
rest decides. -/
theorem firstBefore_cons {x a b : α} {l : List α} :
    FirstBefore (x :: l) a b ↔ (x = a ∧ a ≠ b) ∨ (x ≠ b ∧ FirstBefore l a b) := by
  constructor
  · rintro ⟨front, rest, hl, hb, hab⟩
    cases front with
    | nil =>
      rw [List.nil_append] at hl
      exact Or.inl ⟨(List.cons.inj hl).1, hab⟩
    | cons y front =>
      rw [List.cons_append] at hl
      obtain ⟨rfl, hrest⟩ := List.cons.inj hl
      rw [List.mem_cons, not_or] at hb
      exact Or.inr ⟨fun h => hb.1 h.symm, front, rest, hrest, hb.2, hab⟩
  · rintro (⟨rfl, hab⟩ | ⟨hxb, front, rest, rfl, hb, hab⟩)
    · exact ⟨[], l, rfl, List.not_mem_nil, hab⟩
    · refine ⟨x :: front, rest, rfl, ?_, hab⟩
      rw [List.mem_cons, not_or]
      exact ⟨fun h => hxb h.symm, hb⟩

theorem not_firstBefore_nil {a b : α} : ¬ FirstBefore [] a b := by
  rintro ⟨front, rest, hl, -⟩
  simp at hl

theorem FirstBefore.ne {a b : α} {l : List α} (h : FirstBefore l a b) : a ≠ b := by
  obtain ⟨_, _, -, -, hab⟩ := h
  exact hab

/-- An item that comes first in two lists does so in the first of them, or in the second, if neither
of the two items is in the first. Induction on the first list. -/
theorem firstBefore_append_iff {a b : α} {l l' : List α} :
    FirstBefore (l ++ l') a b ↔ FirstBefore l a b ∨ (a ∉ l ∧ b ∉ l ∧ FirstBefore l' a b) := by
  induction l with
  | nil => simp [not_firstBefore_nil]
  | cons x l ih =>
    rw [List.cons_append, firstBefore_cons, firstBefore_cons, ih, List.mem_cons, List.mem_cons,
      not_or, not_or]
    constructor
    · rintro (hx | ⟨hxb, h | ⟨ha, hb, h⟩⟩)
      · exact Or.inl (Or.inl hx)
      · exact Or.inl (Or.inr ⟨hxb, h⟩)
      · by_cases hxa : x = a
        · exact Or.inl (Or.inl ⟨hxa, h.ne⟩)
        · exact Or.inr ⟨⟨Ne.symm hxa, ha⟩, ⟨Ne.symm hxb, hb⟩, h⟩
    · rintro ((hx | ⟨hxb, h⟩) | ⟨⟨-, ha⟩, ⟨hbx, hb⟩, h⟩)
      · exact Or.inl hx
      · exact Or.inr ⟨hxb, Or.inl h⟩
      · exact Or.inr ⟨Ne.symm hbx, Or.inr ⟨ha, hb, h⟩⟩

/-- What is in a list comes before what is not in it. -/
theorem firstBefore_of_mem {a b : α} {l : List α} (ha : a ∈ l) (hb : b ∉ l) : FirstBefore l a b := by
  obtain ⟨front, rest, rfl⟩ := List.append_of_mem ha
  rw [List.mem_append, not_or, List.mem_cons, not_or] at hb
  exact ⟨front, rest, rfl, hb.1, Ne.symm hb.2.1⟩

/-- What is in the first of two lists comes before what is only in the second. -/
theorem firstBefore_append {a b : α} {l l' : List α} (ha : a ∈ l) (hb : b ∉ l) :
    FirstBefore (l ++ l') a b :=
  firstBefore_append_iff.mpr (Or.inl (firstBefore_of_mem ha hb))

/-- Of two different items one comes first. Induction on the list. -/
theorem firstBefore_total {a b : α} {l : List α} (ha : a ∈ l) (hab : a ≠ b) :
    FirstBefore l a b ∨ FirstBefore l b a := by
  induction l with
  | nil => cases ha
  | cons x l ih =>
    rw [firstBefore_cons, firstBefore_cons]
    by_cases hxa : x = a
    · exact Or.inl (Or.inl ⟨hxa, hab⟩)
    · by_cases hxb : x = b
      · exact Or.inr (Or.inl ⟨hxb, Ne.symm hab⟩)
      · have hrest : a ∈ l := (List.mem_cons.mp ha).resolve_left (Ne.symm hxa)
        rcases ih hrest with h | h
        · exact Or.inl (Or.inr ⟨hxb, h⟩)
        · exact Or.inr (Or.inr ⟨hxa, h⟩)

/-- No two items come one before the other both ways. Induction on the list. -/
theorem FirstBefore.asymm {a b : α} {l : List α} (h : FirstBefore l a b) : ¬ FirstBefore l b a := by
  induction l with
  | nil => exact not_firstBefore_nil
  | cons x l ih =>
    intro h'
    rw [firstBefore_cons] at h h'
    rcases h with ⟨hxa, hab⟩ | ⟨hxb, h⟩
    · rcases h' with ⟨hxb, -⟩ | ⟨hxa', -⟩
      · exact hab (hxa.symm.trans hxb)
      · exact hxa' hxa
    · rcases h' with ⟨hxb', -⟩ | ⟨-, h'⟩
      · exact hxb hxb'
      · exact ih h h'

/-- What `g` has made of two items comes in the order in which `f` reads them back, if `f` leaves
out no occurrence of the second. Induction on the list. -/
theorem firstBefore_of_filterMap {f : α → Option β} {g : β → α}
    (hf : ∀ x y, f x = some y → x = g y) {a b : β} (hb : f (g b) = some b) {l : List α}
    (h : FirstBefore (l.filterMap f) a b) : FirstBefore l (g a) (g b) := by
  induction l with
  | nil => exact absurd h not_firstBefore_nil
  | cons x l ih =>
    rw [firstBefore_cons]
    -- an item that is not read stands in front of neither
    cases hx : f x with
    | none =>
      rw [List.filterMap_cons_none hx] at h
      have hxb : x ≠ g b := by
        rintro rfl
        rw [hb] at hx
        cases hx
      exact Or.inr ⟨hxb, ih h⟩
    | some y =>
      rw [List.filterMap_cons_some hx, firstBefore_cons] at h
      have hback : x = g b → y = b := by
        rintro rfl
        exact Option.some.inj (hx.symm.trans hb)
      rcases h with ⟨rfl, hyb⟩ | ⟨hyb, h⟩
      · have hxy : x = g y := hf x y hx
        exact Or.inl ⟨hxy, fun heq => hyb (hback (hxy.trans heq))⟩
      · exact Or.inr ⟨fun heq => hyb (hback heq), ih h⟩

/-- The order among the items that pass a test is the order that they have in the whole list. -/
theorem firstBefore_of_filter {p : α → Bool} {a b : α} {l : List α}
    (h : FirstBefore (l.filter p) a b) (hb : p b = true) : FirstBefore l a b := by
  rw [← List.filterMap_eq_filter] at h
  refine firstBefore_of_filterMap (g := id) ?_ ?_ h
  · intro x y hxy
    exact (Option.guard_eq_some_iff.mp hxy).1
  · exact Option.guard_eq_some_iff.mpr ⟨rfl, hb⟩

/-! ## Positions -/

section

variable {f : α → Option β} {l : List α} {a b : β} {i j : Nat}

/-- What stands at the position is read as `b`. -/
def ReadAt (f : α → Option β) (l : List α) (b : β) (i : Nat) : Prop :=
  ∃ x, l[i]? = some x ∧ f x = some b

theorem readAt_zero_iff {x : α} : ReadAt f (x :: l) b 0 ↔ f x = some b := by
  simp [ReadAt]

theorem readAt_succ_iff {x : α} : ReadAt f (x :: l) b (i + 1) ↔ ReadAt f l b i := by
  simp [ReadAt]

/-- An item is read at some position exactly if it is among those that are read. -/
theorem exists_readAt_iff : (∃ i, ReadAt f l b i) ↔ b ∈ l.filterMap f := by
  unfold ReadAt
  rw [List.mem_filterMap]
  constructor
  · rintro ⟨i, x, hx, hb⟩
    exact ⟨x, List.mem_of_getElem? hx, hb⟩
  · rintro ⟨x, hx, hb⟩
    obtain ⟨i, hi⟩ := List.getElem?_of_mem hx
    exact ⟨i, x, hi, hb⟩

theorem ReadAt.lt_length (h : ReadAt f l b i) : i < l.length := by
  obtain ⟨_, hx, -⟩ := h
  exact (List.getElem?_eq_some_iff.mp hx).1

/-- What is read at all is read at a first position. The positions are natural numbers, so there is
a least. -/
theorem exists_isLeast_readAt (h : b ∈ l.filterMap f) : ∃ i, IsLeast {i | ReadAt f l b i} i := by
  classical exact ⟨_, Nat.isLeast_find (exists_readAt_iff.mpr h)⟩

/-- What is read at all is read at a last position, because there are no more positions than
items. -/
theorem exists_isGreatest_readAt (h : b ∈ l.filterMap f) :
    ∃ i, IsGreatest {i | ReadAt f l b i} i :=
  BddAbove.exists_isGreatest_of_nonempty ⟨l.length, fun _ hi => Nat.le_of_lt hi.lt_length⟩
    (exists_readAt_iff.mpr h)

/-- Of two items the one is read at a position before all those of the other. Induction on the
list. -/
theorem exists_readAt_of_firstBefore (h : FirstBefore (l.filterMap f) a b) :
    ∃ i, ReadAt f l a i ∧ ∀ j, ReadAt f l b j → i < j := by
  induction l with
  | nil => exact absurd h not_firstBefore_nil
  | cons x rest ih =>
    -- the first item is read as `a`, and then not as `b`
    by_cases hx : f x = some a
    · refine ⟨0, readAt_zero_iff.mpr hx, fun j hj => ?_⟩
      cases j with
      | zero =>
        have hab : a = b := Option.some.inj (hx.symm.trans (readAt_zero_iff.mp hj))
        exact absurd hab h.ne
      | succ j => exact Nat.succ_pos j
    · -- `x` is read as something else than `a`, and not as `b`, or `b` would come first
      have hrest : f x ≠ some b ∧ FirstBefore (rest.filterMap f) a b := by
        cases hread : f x with
        | none =>
          rw [List.filterMap_cons_none hread] at h
          exact ⟨nofun, h⟩
        | some y =>
          rw [List.filterMap_cons_some hread, firstBefore_cons] at h
          rcases h with ⟨rfl, -⟩ | ⟨hne, h⟩
          · exact absurd hread hx
          · exact ⟨fun heq => hne (Option.some.inj heq), h⟩
      obtain ⟨i, hi, hbefore⟩ := ih hrest.2
      refine ⟨i + 1, readAt_succ_iff.mpr hi, fun j hj => ?_⟩
      cases j with
      | zero => exact absurd (readAt_zero_iff.mp hj) hrest.1
      | succ j => exact Nat.succ_lt_succ (hbefore j (readAt_succ_iff.mp hj))

/-- Of two readings, the one whose first position is less comes before the other. -/
theorem firstBefore_filterMap_iff (hi : IsLeast {i | ReadAt f l a i} i)
    (hj : IsLeast {j | ReadAt f l b j} j) : FirstBefore (l.filterMap f) a b ↔ i < j := by
  constructor
  · intro h
    obtain ⟨k, hk, hbefore⟩ := exists_readAt_of_firstBefore h
    exact Nat.lt_of_le_of_lt (hi.2 hk) (hbefore j hj.1)
  · intro hlt
    have hab : a ≠ b := by
      rintro rfl
      exact absurd (hj.2 hi.1) (Nat.not_le_of_lt hlt)
    refine (firstBefore_total (exists_readAt_iff.mp ⟨i, hi.1⟩) hab).resolve_right fun h => ?_
    obtain ⟨k, hk, hbefore⟩ := exists_readAt_of_firstBefore h
    have hki : k < i := hbefore i hi.1
    have hjk : j ≤ k := hj.2 hk
    omega

/-- A position in the reversed list, counted from the end of the list. -/
theorem readAt_reverse_iff (hi : i < l.length) :
    ReadAt f l.reverse b i ↔ ReadAt f l b (l.length - 1 - i) := by
  unfold ReadAt
  rw [List.getElem?_reverse hi]

/-- Backwards, the item that is read at the last position comes first. -/
theorem isLeast_readAt_reverse (h : IsGreatest {i | ReadAt f l a i} i) :
    IsLeast {i | ReadAt f l.reverse a i} (l.length - 1 - i) := by
  have hlt : i < l.length := h.1.lt_length
  constructor
  · have hback : l.length - 1 - (l.length - 1 - i) = i := by omega
    show ReadAt f l.reverse a (l.length - 1 - i)
    rw [readAt_reverse_iff (by omega), hback]
    exact h.1
  · intro k hk
    have hklt : k < l.length := by simpa using hk.lt_length
    have hread : ReadAt f l a (l.length - 1 - k) := (readAt_reverse_iff hklt).mp hk
    have hle : l.length - 1 - k ≤ i := h.2 hread
    omega

/-- In the reversed list, the reading whose last position is greater comes first. This is how a
later step comes before an earlier one. -/
theorem firstBefore_filterMap_reverse_iff (hi : IsGreatest {i | ReadAt f l a i} i)
    (hj : IsGreatest {j | ReadAt f l b j} j) :
    FirstBefore (l.reverse.filterMap f) a b ↔ j < i := by
  have hilt : i < l.length := hi.1.lt_length
  have hjlt : j < l.length := hj.1.lt_length
  rw [firstBefore_filterMap_iff (isLeast_readAt_reverse hi) (isLeast_readAt_reverse hj)]
  omega

end

theorem pairwise_zipIdx (l : List α) : l.zipIdx.Pairwise fun a b => a.2 < b.2 := by
  refine List.pairwise_map.mp ?_
  rw [List.zipIdx_map_snd]
  exact List.pairwise_lt_range'

/-! ## Lists without their repetitions

Of each item the first occurrence is kept, so the order of first occurrences stays. -/

variable [BEq α] [LawfulBEq α]

/-- A further item is kept at the end unless it is there already. The inductions on repetitions go
from the back because of this. -/
theorem eraseDups_append_singleton (l : List α) (a : α) :
    (l ++ [a]).eraseDups = if a ∈ l then l.eraseDups else l.eraseDups ++ [a] := by
  rw [List.eraseDups_append]
  by_cases h : a ∈ l
  · simp [List.removeAll, h]
  · simp [List.removeAll, h, List.eraseDups_cons]

theorem eraseDups_of_nodup {l : List α} (h : l.Nodup) : l.eraseDups = l := by
  induction l using List.reverseRecOn with
  | nil => rfl
  | append_singleton l a ih =>
    rw [List.nodup_append_comm, List.singleton_append, List.nodup_cons] at h
    rw [eraseDups_append_singleton, if_neg h.1, ih h.2]

/-- Repetitions that were dropped from the second of two lists are dropped from both together
anyway. -/
theorem eraseDups_append_eraseDups (l l' : List α) :
    (l ++ l'.eraseDups).eraseDups = (l ++ l').eraseDups := by
  induction l' using List.reverseRecOn with
  | nil => rfl
  | append_singleton l' a ih =>
    rw [← List.append_assoc, eraseDups_append_singleton, eraseDups_append_singleton]
    by_cases h : a ∈ l'
    · rw [if_pos h, if_pos (List.mem_append_right l h), ih]
    · rw [if_neg h, ← List.append_assoc, eraseDups_append_singleton, ih]
      simp only [List.mem_append, List.mem_eraseDups]

/-- Dropping the repetitions does not change what comes first. Induction from the last item. -/
theorem firstBefore_eraseDups_iff {l : List α} {a b : α} :
    FirstBefore l.eraseDups a b ↔ FirstBefore l a b := by
  induction l using List.reverseRecOn with
  | nil => exact Iff.rfl
  | append_singleton l x ih =>
    rw [eraseDups_append_singleton, firstBefore_append_iff, ← ih]
    by_cases hx : x ∈ l
    · -- a repetition is in front of nothing that is not in the list
      rw [if_pos hx, or_iff_left]
      rintro ⟨ha, -, h⟩
      rcases firstBefore_cons.mp h with ⟨rfl, -⟩ | ⟨-, h⟩
      · exact ha hx
      · exact not_firstBefore_nil h
    · rw [if_neg hx, firstBefore_append_iff, List.mem_eraseDups, List.mem_eraseDups]

/-- Without its repetitions a list has its items in the order of their first occurrences. -/
theorem pairwise_eraseDups (l : List α) : l.eraseDups.Pairwise (FirstBefore l) := by
  match l with
  | [] => exact List.Pairwise.nil
  | a :: rest =>
    rw [List.eraseDups_cons, List.pairwise_cons]
    have hne : ∀ b ∈ (rest.filter fun b => !b == a).eraseDups, b ≠ a ∧ (!b == a) = true := by
      intro b hb
      have hkeep := (List.mem_filter.mp (List.mem_eraseDups.mp hb)).2
      exact ⟨by simpa using hkeep, hkeep⟩
    constructor
    · intro b hb
      exact firstBefore_cons.mpr (Or.inl ⟨rfl, (hne b hb).1.symm⟩)
    · refine (pairwise_eraseDups (rest.filter fun b => !b == a)).imp_of_mem ?_
      intro x y _ hy hxy
      have hrest : FirstBefore rest x y := firstBefore_of_filter hxy (hne y hy).2
      exact firstBefore_cons.mpr (Or.inr ⟨(hne y hy).1.symm, hrest⟩)
termination_by l.length
decreasing_by exact Nat.lt_succ_of_le (List.length_filter_le _ _)

/-- A list without repetitions has its items in the order in which they come first. -/
theorem pairwise_firstBefore {l : List α} (h : l.Nodup) : l.Pairwise (FirstBefore l) := by
  have hpairwise := pairwise_eraseDups l
  rw [eraseDups_of_nodup h] at hpairwise
  exact hpairwise

/-- Lists without repetitions are the same if they have the same items in the same order. -/
theorem eq_of_firstBefore {l l' : List α} (h : l.Nodup) (h' : l'.Nodup)
    (hmem : ∀ a, a ∈ l ↔ a ∈ l')
    (horder : ∀ a ∈ l, ∀ b ∈ l, FirstBefore l' a b → FirstBefore l a b) : l = l' := by
  have hperm : l.Perm l' := (List.perm_ext_iff_of_nodup h h').mpr hmem
  have hpairwise : l'.Pairwise (FirstBefore l) := by
    refine (pairwise_firstBefore h').imp_of_mem ?_
    intro a b ha hb hab
    exact horder a ((hmem a).mpr ha) b ((hmem b).mpr hb) hab
  refine hperm.eq_of_pairwise ?_ (pairwise_firstBefore h) hpairwise
  intro a b _ _ hab hba
  exact absurd hba hab.asymm

theorem nodup_eraseDups (l : List α) : l.eraseDups.Nodup :=
  (pairwise_eraseDups l).imp FirstBefore.ne

/-- No item is counted more than once exactly if none is repeated. -/
theorem repeatedItems_eq_nil_iff {l : List α} :
    (l.eraseDups.filter fun a => decide (1 < l.count a)) = [] ↔ l.Nodup := by
  rw [List.nodup_iff_count_le_one, List.filter_eq_nil_iff]
  constructor
  · intro h a
    by_cases hmem : a ∈ l
    · have hfew := h a (List.mem_eraseDups.mpr hmem)
      simpa using hfew
    · rw [List.count_eq_zero.mpr hmem]
      exact Nat.zero_le 1
  · intro h a _
    simpa using h a

end ShellFlow

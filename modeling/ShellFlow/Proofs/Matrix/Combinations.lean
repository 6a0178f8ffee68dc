import ShellFlow.Matrix
import ShellFlow.Proofs.FirstOccurrence
import ShellFlow.Proofs.SortedNames
import ShellFlow.Proofs.Success

/-!
# Combinations of a matrix

A combination is picked by an index for every dimension, and combinations come in the order of these
indices, the first dimension deciding before the others. The dimensions are those of the mapping in
the order of their names, so the order in which the mapping lists them does not matter.

* **`mem_numbered_iff`**, **`pairwise_numbered`** — the enumeration, which combinations it lists and in
  which order.
* **`exists_picks_of_split`**, **`exists_split_of_picks`** — what comes before a combination and what
  comes after it, told by the indices.
* **`itemsOf_eq_ok`**, **`isReadAs_of_itemsOf`** — the dimensions as they are read from a mapping.
* **`sorted_eq_of_perm`** — the order of the mapping is lost.
-/

namespace ShellFlow.Matrix

/-! ## Indices -/

/-- The combination has the value at the index in every dimension. -/
inductive Picks : Dimensions → List Nat → Combination → Prop
  | nil : Picks [] [] []
  | cons {key : String} {values : List Value} {v : Value} {i : Nat} {rest : Dimensions}
      {is : List Nat} {c : Combination} :
      values[i]? = some v → Picks rest is c →
      Picks ((key, values) :: rest) (i :: is) ((key, v) :: c)

theorem picks_nil_iff {is : List Nat} {c : Combination} : Picks [] is c ↔ is = [] ∧ c = [] := by
  constructor
  · rintro ⟨⟩
    exact ⟨rfl, rfl⟩
  · rintro ⟨rfl, rfl⟩
    exact .nil

theorem picks_cons_iff {key : String} {values : List Value} {rest : Dimensions} {is : List Nat}
    {c : Combination} :
    Picks ((key, values) :: rest) is c ↔
      ∃ i v is' c', values[i]? = some v ∧ Picks rest is' c' ∧ is = i :: is' ∧ c = (key, v) :: c' := by
  constructor
  · rintro (_ | ⟨hv, hrest⟩)
    exact ⟨_, _, _, _, hv, hrest, rfl, rfl⟩
  · rintro ⟨i, v, is', c', hv, hrest, rfl, rfl⟩
    exact .cons hv hrest

theorem Picks.unique {dims : Dimensions} {is : List Nat} {c c' : Combination} (h : Picks dims is c)
    (h' : Picks dims is c') : c = c' := by
  induction h generalizing c' with
  | nil => exact (picks_nil_iff.mp h').2.symm
  | cons hv _ ih =>
    obtain ⟨i, v, is', c', hv', hrest', his, rfl⟩ := picks_cons_iff.mp h'
    cases his
    rw [hv] at hv'
    cases hv'
    rw [ih hrest']

theorem Picks.keys {dims : Dimensions} {is : List Nat} {c : Combination} (h : Picks dims is c) :
    c.map Prod.fst = dims.map Prod.fst := by
  induction h with
  | nil => rfl
  | cons _ _ ih => rw [List.map_cons, List.map_cons, ih]

/-! ## The enumeration -/

def numbered : Dimensions → List (List Nat × Combination)
  | [] => [([], [])]
  | (key, values) :: rest =>
    values.zipIdx.flatMap fun e =>
      (numbered rest).map fun n => (e.2 :: n.1, (key, e.1) :: n.2)

/-- Without their indices, these are the combinations that are enumerated. -/
theorem map_snd_numbered (dims : Dimensions) : (numbered dims).map Prod.snd = combinations dims := by
  induction dims with
  | nil => rfl
  | cons dim rest ih =>
    obtain ⟨key, values⟩ := dim
    unfold numbered combinations
    conv => rhs; rw [← List.zipIdx_map_fst 0 values, List.flatMap_map]
    rw [List.map_flatMap, ← ih]
    simp only [List.map_map, Function.comp_def]

/-- The enumeration lists what is picked by some indices, and lists it with these. Induction on the
dimensions. -/
theorem mem_numbered_iff {dims : Dimensions} {is : List Nat} {c : Combination} :
    (is, c) ∈ numbered dims ↔ Picks dims is c := by
  induction dims generalizing is c with
  | nil => rw [numbered, List.mem_singleton, Prod.mk.injEq, picks_nil_iff]
  | cons dim rest ih =>
    obtain ⟨key, values⟩ := dim
    rw [picks_cons_iff, numbered, List.mem_flatMap]
    constructor
    · rintro ⟨⟨v, i⟩, hv, hmem⟩
      obtain ⟨⟨is', c'⟩, hrest, heq⟩ := List.mem_map.mp hmem
      cases heq
      exact ⟨i, v, is', c', List.mem_zipIdx_iff_getElem?.mp hv, ih.mp hrest, rfl, rfl⟩
    · rintro ⟨i, v, is', c', hv, hrest, rfl, rfl⟩
      exact ⟨(v, i), List.mem_zipIdx_iff_getElem?.mpr hv,
        List.mem_map.mpr ⟨(is', c'), ih.mpr hrest, rfl⟩⟩

/-- The combinations are those that are picked by some indices. -/
theorem mem_combinations_iff {dims : Dimensions} {c : Combination} :
    c ∈ combinations dims ↔ ∃ is, Picks dims is c := by
  rw [← map_snd_numbered, List.mem_map]
  constructor
  · rintro ⟨⟨is, c⟩, hmem, rfl⟩
    exact ⟨is, mem_numbered_iff.mp hmem⟩
  · rintro ⟨is, hpicks⟩
    exact ⟨(is, c), mem_numbered_iff.mpr hpicks, rfl⟩

/-- Combinations come in the order of their indices. -/
theorem pairwise_numbered (dims : Dimensions) : (numbered dims).Pairwise fun a b => a.1 < b.1 := by
  induction dims with
  | nil => exact List.pairwise_singleton _ _
  | cons dim rest ih =>
    obtain ⟨key, values⟩ := dim
    unfold numbered
    refine List.pairwise_flatMap.mpr ⟨fun e _ => ?_, ?_⟩
    · refine List.pairwise_map.mpr (ih.imp fun {a b} hab => ?_)
      exact List.cons_lt_cons_iff.mpr (Or.inr ⟨rfl, hab⟩)
    · refine (pairwise_zipIdx values).imp fun {a b} hab x hx y hy => ?_
      obtain ⟨_, -, rfl⟩ := List.mem_map.mp hx
      obtain ⟨_, -, rfl⟩ := List.mem_map.mp hy
      exact List.cons_lt_cons_iff.mpr (Or.inl hab)

/-- No indices are listed twice, since they are listed in strict order. -/
theorem nodup_numbered (dims : Dimensions) : (numbered dims).Nodup := by
  refine (pairwise_numbered dims).imp ?_
  rintro a _ hlt rfl
  exact List.lt_irrefl a.1 hlt

/-! ## Before and after a combination

The last dimension varies fastest, so the combinations are in the order of their indices. -/

/-- Where the enumeration is cut at a combination, those with smaller indices come before it and those
with greater ones after it. -/
structure SplitsAt (dims : Dimensions) (is : List Nat) (before after : List Combination) :
    Prop where
  before_iff : ∀ c', c' ∈ before ↔ ∃ is', Picks dims is' c' ∧ is' < is
  after_iff : ∀ c', c' ∈ after ↔ ∃ is', Picks dims is' c' ∧ is < is'
  compare : ∀ is' c', Picks dims is' c' → is' < is ∨ is' = is ∨ is < is'

/-- What stands before a combination has lesser indices, and what stands after it has greater
ones. -/
theorem splitsAt_of_numbered {dims : Dimensions} {is : List Nat} {c : Combination}
    {before after : List (List Nat × Combination)}
    (h : numbered dims = before ++ (is, c) :: after) :
    SplitsAt dims is (before.map Prod.snd) (after.map Prod.snd) := by
  have hordered := pairwise_numbered dims
  rw [h, List.pairwise_append, List.pairwise_cons] at hordered
  have hbefore : ∀ n ∈ before, n.1 < is := fun n hn => hordered.2.2 n hn _ List.mem_cons_self
  have hafter : ∀ n ∈ after, is < n.1 := hordered.2.1.1
  have hpicks : ∀ n ∈ before ++ (is, c) :: after, Picks dims n.1 n.2 := by
    intro n hn
    exact mem_numbered_iff.mp (h ▸ hn)
  -- every combination is on one of the sides, and on which one its indices decide
  have hmem : ∀ is' c', Picks dims is' c' →
      (is', c') ∈ before ∨ is' = is ∨ (is', c') ∈ after := by
    intro is' c' hpicks
    rw [← mem_numbered_iff, h, List.mem_append, List.mem_cons, Prod.mk.injEq] at hpicks
    exact hpicks.imp_right (Or.imp_left And.left)
  refine ⟨fun c' => ⟨?_, ?_⟩, fun c' => ⟨?_, ?_⟩, fun is' c' hc' => ?_⟩
  · intro hc'
    obtain ⟨n, hn, rfl⟩ := List.mem_map.mp hc'
    exact ⟨n.1, hpicks n (List.mem_append_left _ hn), hbefore n hn⟩
  · rintro ⟨is', hc', hlt⟩
    rcases hmem is' c' hc' with hn | rfl | hn
    · exact List.mem_map_of_mem hn
    · exact absurd hlt (List.lt_irrefl is')
    · exact absurd hlt (List.lt_asymm (hafter _ hn))
  · intro hc'
    obtain ⟨n, hn, rfl⟩ := List.mem_map.mp hc'
    exact ⟨n.1, hpicks n (List.mem_append_right _ (List.mem_cons_of_mem _ hn)), hafter n hn⟩
  · rintro ⟨is', hc', hlt⟩
    rcases hmem is' c' hc' with hn | rfl | hn
    · exact absurd hlt (List.lt_asymm (hbefore _ hn))
    · exact absurd hlt (List.lt_irrefl is')
    · exact List.mem_map_of_mem hn
  · rcases hmem is' c' hc' with hn | rfl | hn
    · exact Or.inl (hbefore _ hn)
    · exact Or.inr (Or.inl rfl)
    · exact Or.inr (Or.inr (hafter _ hn))

/-- A place in the enumeration, told by indices. -/
theorem exists_picks_of_split {dims : Dimensions} {c : Combination}
    {before after : List Combination} (h : combinations dims = before ++ c :: after) :
    ∃ is, Picks dims is c ∧ SplitsAt dims is before after := by
  rw [← map_snd_numbered] at h
  obtain ⟨front, _, hsplit, rfl, htail⟩ := List.map_eq_append_iff.mp h
  obtain ⟨⟨is, c⟩, back, rfl, rfl, rfl⟩ := List.map_eq_cons_iff.mp htail
  refine ⟨is, mem_numbered_iff.mp ?_, splitsAt_of_numbered hsplit⟩
  rw [hsplit]
  exact List.mem_append_right _ List.mem_cons_self

/-- Indices, told by a place in the enumeration. -/
theorem exists_split_of_picks {dims : Dimensions} {is : List Nat} {c : Combination}
    (h : Picks dims is c) :
    ∃ before after, combinations dims = before ++ c :: after ∧ SplitsAt dims is before after := by
  obtain ⟨front, back, hsplit⟩ := List.append_of_mem (mem_numbered_iff.mpr h)
  refine ⟨_, _, ?_, splitsAt_of_numbered hsplit⟩
  rw [← map_snd_numbered, hsplit, List.map_append, List.map_cons]

/-! ## Reading the dimensions -/

/-- The dimensions are those of the entries, with the items of their values, in the order of their
names. -/
structure IsReadAs (entries : List (String × Value)) (dims : Dimensions) : Prop where
  ordered : (dims.map Prod.fst).Pairwise (· < ·)
  mem_iff : ∀ key items, (key, items) ∈ dims ↔ ∃ v, (key, v) ∈ entries ∧ v.items = .ok items

theorem IsReadAs.unique {entries : List (String × Value)} {dims dims' : Dimensions}
    (h : IsReadAs entries dims) (h' : IsReadAs entries dims') : dims = dims' := by
  have hperm : dims.Perm dims' := by
    rw [List.perm_ext_iff_of_nodup (.of_map _ (nodup_of_pairwise_lt h.ordered))
      (.of_map _ (nodup_of_pairwise_lt h'.ordered))]
    rintro ⟨key, items⟩
    rw [h.mem_iff, h'.mem_iff]
  exact eq_of_perm_of_pairwise_lt hperm (List.pairwise_map.mp h.ordered)
    (List.pairwise_map.mp h'.ordered)

/-- The dimensions that are read have the keys of the entries in their order, and the items of the
values. -/
theorem itemsOf_eq_ok {entries : List (String × Value)} {dims : Dimensions}
    (h : itemsOf entries = .ok dims) :
    dims.map Prod.fst = entries.map Prod.fst
      ∧ ∀ key items, (key, items) ∈ dims ↔ ∃ v, (key, v) ∈ entries ∧ v.items = .ok items := by
  induction entries generalizing dims with
  | nil =>
    cases h
    simp
  | cons e rest ih =>
    obtain ⟨key, value⟩ := e
    obtain ⟨items, hitems, h⟩ := Success.bind_eq_ok.mp h
    obtain ⟨others, hothers, h⟩ := Success.bind_eq_ok.mp h
    cases h
    obtain ⟨hkeys, hmem⟩ := ih hothers
    refine ⟨by rw [List.map_cons, List.map_cons, hkeys], fun key' items' => ?_⟩
    rw [List.mem_cons, hmem]
    constructor
    · rintro (heq | ⟨v, hv, hitems'⟩)
      · cases heq
        exact ⟨value, List.mem_cons_self, hitems⟩
      · exact ⟨v, List.mem_cons_of_mem _ hv, hitems'⟩
    · rintro ⟨v, hv, hitems'⟩
      rcases List.mem_cons.mp hv with heq | hv
      · cases heq
        rw [hitems] at hitems'
        cases hitems'
        exact Or.inl rfl
      · exact Or.inr ⟨v, hv, hitems'⟩

/-- The dimensions can be read if every value has items. -/
theorem exists_itemsOf_eq_ok {entries : List (String × Value)}
    (h : ∀ e ∈ entries, ∃ items, e.2.items = .ok items) : ∃ dims, itemsOf entries = .ok dims := by
  induction entries with
  | nil => exact ⟨[], rfl⟩
  | cons e rest ih =>
    obtain ⟨⟨items, hitems⟩, hrest⟩ := List.forall_mem_cons.mp h
    obtain ⟨others, hothers⟩ := ih hrest
    refine ⟨(e.1, items) :: others, Success.bind_eq_ok.mpr ⟨items, hitems, ?_⟩⟩
    exact Success.bind_eq_ok.mpr ⟨others, hothers, rfl⟩

/-- Sorted entries stand in strict order, if no key stands twice. -/
theorem pairwise_sorted {α : Type} {l : List (String × α)} (h : (l.map Prod.fst).Nodup) :
    (sorted l).Pairwise fun a b => a.1 < b.1 :=
  pairwise_mergeSort_lt h

/-- The order in which entries are given does not matter. -/
theorem sorted_eq_of_perm {α : Type} {l l' : List (String × α)} (h : (l.map Prod.fst).Nodup)
    (hperm : l'.Perm l) : sorted l' = sorted l := by
  have h' : (l'.map Prod.fst).Nodup := (hperm.map Prod.fst).nodup_iff.mpr h
  have hsorted : (sorted l').Perm (sorted l) :=
    (List.mergeSort_perm l' _).trans (hperm.trans (List.mergeSort_perm l _).symm)
  exact eq_of_perm_of_pairwise_lt hsorted (pairwise_sorted h') (pairwise_sorted h)

/-- Dimensions that are in order and are read from the entries in any order are the dimensions of
the matrix. -/
theorem isReadAs_of_perm {entries entries' : List (String × Value)} {dims : Dimensions}
    (hperm : entries'.Perm entries) (hordered : (entries'.map Prod.fst).Pairwise (· < ·))
    (h : itemsOf entries' = .ok dims) : IsReadAs entries dims := by
  obtain ⟨hfst, hmem⟩ := itemsOf_eq_ok h
  refine ⟨hfst ▸ hordered, fun key items => ?_⟩
  rw [hmem]
  simp only [hperm.mem_iff]

/-- The matrix reads its entries sorted, and what it reads are the dimensions in the sense of
`IsReadAs`. -/
theorem isReadAs_of_itemsOf {entries : List (String × Value)} {dims : Dimensions}
    (hkeys : (entries.map Prod.fst).Nodup) (h : itemsOf (sorted entries) = .ok dims) :
    IsReadAs entries dims :=
  isReadAs_of_perm (List.mergeSort_perm entries _) (List.pairwise_map.mpr (pairwise_sorted hkeys)) h

end ShellFlow.Matrix

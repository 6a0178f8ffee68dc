import ShellFlow.OrderedMap
import ShellFlow.Proofs.FirstOccurrence

/-!
# Maps that are made by insertions

A map is often filled by a loop that writes one entry after the other. Here it is said what such a
loop leaves behind: every key stands where it came in first, with what was written to it last.

* **`Assoc.foldl_insert_of_nodup`** — entries with keys of their own are appended as they are.
* **`Assoc.find?_foldl_insert_reverse`**, **`Assoc.keys_foldl_insert`** — the loop for any entries, by
  induction from the last one.
* **`OrderedMap.get?_ofList_eq_some_iff`**, **`OrderedMap.keys_ofList`** — the map of a list of pairs.
* **`OrderedMap.get?_insertAll`**, **`OrderedMap.keys_insertAll`** — one map written over another.
-/

namespace ShellFlow

variable {κ α : Type}

/-- A map is its entries: that no key stands twice in them is a proof and no data. -/
theorem OrderedMap.eq_of_entries {m m' : OrderedMap κ α} (h : m.entries = m'.entries) : m = m' := by
  obtain ⟨entries, hnodup⟩ := m
  cases h
  rfl

variable [DecidableEq κ]

/-! ## Association lists -/

namespace Assoc

theorem insert_of_not_mem {k : κ} {l : List (κ × α)} (h : k ∉ l.map Prod.fst) (a : α) :
    insert k a l = l ++ [(k, a)] := by
  induction l with
  | nil => rfl
  | cons e rest ih =>
    obtain ⟨k', a'⟩ := e
    rw [List.map_cons, List.mem_cons, not_or] at h
    have hne : ¬ k' = k := fun heq => h.1 heq.symm
    rw [insert, if_neg hne, ih h.2, List.cons_append]

/-- To write what is already there changes nothing. -/
theorem insert_eq_self {k : κ} {a : α} {l : List (κ × α)} (h : find? k l = some a) :
    insert k a l = l := by
  induction l with
  | nil => cases h
  | cons e rest ih =>
    obtain ⟨k', a'⟩ := e
    by_cases hk : k' = k
    · rw [find?, if_pos hk] at h
      rw [insert, if_pos hk, Option.some.inj h]
    · rw [find?, if_neg hk] at h
      rw [insert, if_neg hk, ih h]

/-- A function on the values can be applied before an insertion or after. -/
theorem insert_map {β : Type} (f : α → β) (k : κ) (a : α) (l : List (κ × α)) :
    insert k (f a) (l.map fun e => (e.1, f e.2)) = (insert k a l).map fun e => (e.1, f e.2) := by
  induction l with
  | nil => rfl
  | cons e rest ih =>
    obtain ⟨k', a'⟩ := e
    by_cases h : k' = k
    · simp [insert, h]
    · simp [insert, h, ih]

/-- Entries with keys that are not there yet are appended. Induction on the entries. -/
theorem foldl_insert_of_nodup {acc l : List (κ × α)} (h : ((acc ++ l).map Prod.fst).Nodup) :
    l.foldl (fun acc e => insert e.1 e.2 acc) acc = acc ++ l := by
  induction l generalizing acc with
  | nil => simp
  | cons e rest ih =>
    have hnew : e.1 ∉ acc.map Prod.fst := by
      rw [List.map_append, List.map_cons, List.nodup_append] at h
      exact fun hmem => h.2.2 _ hmem _ List.mem_cons_self rfl
    have hshift : acc ++ e :: rest = (acc ++ [e]) ++ rest := by simp
    rw [hshift] at h ⊢
    rw [List.foldl_cons, insert_of_not_mem hnew]
    exact ih h

theorem find?_append (k : κ) (l l' : List (κ × α)) :
    find? k (l ++ l') = (find? k l).or (find? k l') := by
  induction l with
  | nil => rfl
  | cons e rest ih =>
    obtain ⟨k', a'⟩ := e
    by_cases h : k' = k
    · simp [find?, h]
    · simp [find?, h, ih]

/-- A list that was made from its keys by a function is read like the function. -/
theorem find?_map_self (f : κ → α) (keys : List κ) (k : κ) :
    find? k (keys.map fun k => (k, f k)) = if k ∈ keys then some (f k) else none := by
  induction keys with
  | nil => rfl
  | cons key rest ih =>
    by_cases h : key = k
    · simp [find?, h]
    · simp [find?, h, ih, Ne.symm h]

/-- A map that takes over what is found under some keys. -/
theorem find?_filterMap_self (read : κ → Option α) (keys : List κ) (k : κ) :
    find? k (keys.filterMap fun k => (read k).map fun a => (k, a)) =
      if k ∈ keys then read k else none := by
  induction keys with
  | nil => rfl
  | cons k' rest ih =>
    cases hread : read k' with
    | none =>
      rw [List.filterMap_cons_none (by rw [hread, Option.map_none]), ih]
      by_cases hk : k = k' <;> simp [hk, hread]
    | some a =>
      rw [List.filterMap_cons_some (by rw [hread, Option.map_some]), find?, ih]
      by_cases hk : k' = k
      · simp [← hk, hread]
      · simp [hk, Ne.symm hk]

/-- Where no key stands twice, it does not matter from which end one looks. -/
theorem find?_reverse {l : List (κ × α)} (h : (l.map Prod.fst).Nodup) (k : κ) :
    find? k l.reverse = find? k l := by
  have hreverse : (l.reverse.map Prod.fst).Nodup := by
    rw [List.map_reverse]
    exact List.nodup_reverse.mpr h
  refine Option.ext fun a => ?_
  rw [find?_eq_some_iff hreverse, find?_eq_some_iff h, List.mem_reverse]

theorem find?_eq_none_iff {l : List (κ × α)} {k : κ} : find? k l = none ↔ k ∉ l.map Prod.fst := by
  induction l with
  | nil => simp [find?]
  | cons e rest ih =>
    obtain ⟨k', a'⟩ := e
    by_cases h : k' = k
    · simp [find?, h]
    · simp [find?, h, ih, Ne.symm h]

/-- What is found is the first entry with the key. -/
theorem find?_eq_some_iff_split {l : List (κ × α)} {k : κ} {a : α} :
    find? k l = some a ↔
      ∃ front rest, l = front ++ (k, a) :: rest ∧ k ∉ front.map Prod.fst := by
  constructor
  · intro h
    induction l with
    | nil => cases h
    | cons e l ih =>
      obtain ⟨k', a'⟩ := e
      by_cases hk : k' = k
      · rw [find?, if_pos hk] at h
        cases h
        exact ⟨[], l, by rw [hk, List.nil_append], List.not_mem_nil⟩
      · rw [find?, if_neg hk] at h
        obtain ⟨front, rest, rfl, hfront⟩ := ih h
        refine ⟨(k', a') :: front, rest, rfl, ?_⟩
        rw [List.map_cons, List.mem_cons, not_or]
        exact ⟨fun heq => hk heq.symm, hfront⟩
  · rintro ⟨front, rest, rfl, hfront⟩
    rw [find?_append, find?_eq_none_iff.mpr hfront, Option.none_or, find?, if_pos rfl]

/-- The loop leaves what was written last under a key. Induction from the last entry. -/
theorem find?_foldl_insert_reverse (k : κ) (l acc : List (κ × α)) :
    find? k (l.foldl (fun acc e => insert e.1 e.2 acc) acc) =
      (find? k l.reverse).or (find? k acc) := by
  induction l using List.reverseRecOn with
  | nil => rfl
  | append_singleton l e ih =>
    obtain ⟨k', a'⟩ := e
    rw [List.foldl_append, List.foldl_cons, List.foldl_nil, find?_insert, ih, List.reverse_append,
      List.reverse_singleton, find?_append]
    by_cases h : k' = k
    · simp [find?, h]
    · simp [find?, h]

/-- The loop leaves the keys in the order in which they came in first. Induction from the last
entry. -/
theorem keys_foldl_insert {l acc : List (κ × α)} (h : (acc.map Prod.fst).Nodup) :
    (l.foldl (fun acc e => insert e.1 e.2 acc) acc).map Prod.fst =
      (acc.map Prod.fst ++ l.map Prod.fst).eraseDups := by
  induction l using List.reverseRecOn with
  | nil => rw [List.foldl_nil, List.map_nil, List.append_nil, eraseDups_of_nodup h]
  | append_singleton l e ih =>
    rw [List.foldl_append, List.foldl_cons, List.foldl_nil, keys_insert, ih, List.map_append,
      List.map_singleton, ← List.append_assoc, eraseDups_append_singleton]
    simp only [List.mem_eraseDups]

end Assoc

/-! ## Maps -/

namespace OrderedMap

theorem get?_eq_none_iff {m : OrderedMap κ α} {k : κ} : m.get? k = none ↔ k ∉ m.keys :=
  Assoc.find?_eq_none_iff

theorem exists_get?_of_mem {m : OrderedMap κ α} {k : κ} (h : k ∈ m.keys) : ∃ a, m.get? k = some a :=
  Option.ne_none_iff_exists'.mp (mt get?_eq_none_iff.mp (not_not_intro h))

/-- Maps with the same entries in different orders are read alike. -/
theorem get?_eq_of_perm {m m' : OrderedMap κ α} (h : m.entries.Perm m'.entries) (k : κ) :
    m.get? k = m'.get? k := by
  refine Option.ext fun a => ?_
  rw [get?_eq_some_iff, get?_eq_some_iff, h.mem_iff]

/-- Maps with the same keys in the same order that are read alike are the same. -/
theorem eq_of_get? {m m' : OrderedMap κ α} (hkeys : m.keys = m'.keys)
    (hget : ∀ k a, m.get? k = some a → m'.get? k = some a) : m = m' := by
  have hread : ∀ k ∈ m.keys, m.get? k = m'.get? k := by
    intro k hk
    obtain ⟨a, ha⟩ := exists_get?_of_mem hk
    rw [ha, hget k a ha]
  have hentries : ∀ m : OrderedMap κ α, m.entries.map (fun e => (e.1, some e.2)) =
      m.keys.map fun k => (k, m.get? k) := by
    intro m
    rw [keys, List.map_map]
    refine List.map_congr_left fun e he => ?_
    exact Prod.ext rfl (get?_eq_some_iff.mpr he).symm
  have hinj : Function.Injective fun e : κ × α => (e.1, some e.2) := by
    rintro ⟨k, a⟩ ⟨k', a'⟩ h
    simpa using h
  refine eq_of_entries (List.map_injective_iff.mpr hinj ?_)
  rw [hentries, hentries, ← hkeys]
  exact List.map_congr_left fun k hk => Prod.ext rfl (hread k hk)

theorem insert_eq_self {m : OrderedMap κ α} {k : κ} {a : α} (h : m.get? k = some a) :
    m.insert k a = m :=
  eq_of_entries (Assoc.insert_eq_self h)

theorem insert_map {β : Type} (f : α → β) (m : OrderedMap κ α) (k : κ) (a : α) :
    (m.map fun _ a => f a).insert k (f a) = (m.insert k a).map fun _ a => f a :=
  eq_of_entries (Assoc.insert_map f k a m.entries)

theorem ofList_entries (m : OrderedMap κ α) : ofList m.entries = m :=
  eq_of_entries (Assoc.foldl_insert_of_nodup m.nodup_keys)

/-- A list in which no key stands twice is kept entry by entry. -/
theorem entries_ofList_of_nodup {l : List (κ × α)} (h : (l.map Prod.fst).Nodup) :
    (ofList l).entries = l :=
  Assoc.foldl_insert_of_nodup h

/-- The keys of a list, each at the place where it stands first. -/
theorem keys_ofList (l : List (κ × α)) : (ofList l).keys = (l.map Prod.fst).eraseDups :=
  Assoc.keys_foldl_insert List.nodup_nil

/-- Of several entries under a key the last one counts, which is the first from the end. -/
theorem get?_ofList (l : List (κ × α)) (k : κ) : (ofList l).get? k = Assoc.find? k l.reverse := by
  have hfind := Assoc.find?_foldl_insert_reverse k l []
  rw [Assoc.find?, Option.or_none] at hfind
  exact hfind

/-- A map that was made by a function of its keys. -/
theorem get?_ofList_map (f : κ → α) (keys : List κ) (k : κ) :
    (ofList (keys.map fun k => (k, f k))).get? k = if k ∈ keys then some (f k) else none := by
  rw [get?_ofList, ← List.map_reverse, Assoc.find?_map_self]
  simp only [List.mem_reverse]

/-- A map that was made by reading some keys elsewhere reads the same under these keys. Repeated
keys make no difference, because they are read alike. -/
theorem get?_ofList_filterMap (read : κ → Option α) (keys : List κ) (k : κ) :
    (ofList (keys.filterMap fun k => (read k).map fun a => (k, a))).get? k =
      if k ∈ keys then read k else none := by
  rw [get?_ofList, ← List.filterMap_reverse, Assoc.find?_filterMap_self]
  simp only [List.mem_reverse]

/-- In the map of a list of pairs the last one with a key counts. -/
theorem get?_ofList_eq_some_iff {l : List (κ × α)} {k : κ} {a : α} :
    (ofList l).get? k = some a ↔
      ∃ front rest, l = front ++ (k, a) :: rest ∧ k ∉ rest.map Prod.fst := by
  rw [get?_ofList, Assoc.find?_eq_some_iff_split]
  constructor
  · rintro ⟨front, rest, hl, hfront⟩
    refine ⟨rest.reverse, front.reverse, ?_, ?_⟩
    · rw [← List.reverse_reverse l, hl, List.reverse_append, List.reverse_cons, List.append_assoc,
        List.singleton_append]
    · rw [List.map_reverse, List.mem_reverse]
      exact hfront
  · rintro ⟨front, rest, rfl, hrest⟩
    refine ⟨rest.reverse, front.reverse, ?_, ?_⟩
    · rw [List.reverse_append, List.reverse_cons, List.append_assoc, List.singleton_append]
    · rw [List.map_reverse, List.mem_reverse]
      exact hrest

theorem entries_foldl_insert (m : OrderedMap κ α) (l : List (κ × α)) :
    (l.foldl (fun acc e => acc.insert e.1 e.2) m).entries =
      l.foldl (fun acc e => Assoc.insert e.1 e.2 acc) m.entries := by
  induction l generalizing m with
  | nil => rfl
  | cons e rest ih => exact ih (m.insert e.1 e.2)

theorem ofList_eq_foldl (l : List (κ × α)) :
    ofList l = l.foldl (fun acc e => acc.insert e.1 e.2) ∅ := by
  refine eq_of_entries ?_
  rw [entries_foldl_insert]
  rfl

/-- To write one map over another keeps the places of the keys that are there. -/
theorem keys_insertAll (m other : OrderedMap κ α) :
    (m.insertAll other).keys = (m.keys ++ other.keys).eraseDups := by
  unfold keys insertAll
  rw [entries_foldl_insert, Assoc.keys_foldl_insert m.nodup_keys]

/-- Where both maps have a value, the one that is written over counts. -/
theorem get?_insertAll (m other : OrderedMap κ α) (k : κ) :
    (m.insertAll other).get? k = (other.get? k).or (m.get? k) := by
  unfold get? insertAll
  rw [entries_foldl_insert, Assoc.find?_foldl_insert_reverse, Assoc.find?_reverse other.nodup_keys]

end OrderedMap

end ShellFlow

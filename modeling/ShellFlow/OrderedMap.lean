/-!
# Ordered maps

A map that remembers the order in which its keys first came in. Writing to a key that is already
there replaces the value and leaves the key where it is; a new key goes to the end.

## Main statements

* `keys_insert`: an insertion changes the key list only by appending a new key.
* `get?_insert`: a read after a write sees the written value at that key and the old one elsewhere.
* `keys_map`: mapping over the values keeps the keys and their order.
* `get?_eq_some_iff`: a read finds the entries and nothing else.
-/

namespace ShellFlow

/-! ## Association lists -/

namespace Assoc

variable {κ α β : Type} [DecidableEq κ]

/-- Replaces the value of the first entry with key `k`, or appends an entry. -/
def insert (k : κ) (a : α) : List (κ × α) → List (κ × α)
  | [] => [(k, a)]
  | (k', a') :: rest => if k' = k then (k', a) :: rest else (k', a') :: insert k a rest

/-- The value of the first entry with key `k`. -/
def find? (k : κ) : List (κ × α) → Option α
  | [] => none
  | (k', a') :: rest => if k' = k then some a' else find? k rest

/-- The entries left when a repeated key keeps its first place and takes its last value. -/
def dedup (entries : List (κ × α)) : List (κ × α) :=
  entries.foldl (fun acc e => insert e.1 e.2 acc) []

theorem keys_insert (k : κ) (a : α) (l : List (κ × α)) :
    (insert k a l).map Prod.fst =
      if k ∈ l.map Prod.fst then l.map Prod.fst else l.map Prod.fst ++ [k] := by
  induction l with
  | nil => simp [insert]
  | cons e rest ih =>
    obtain ⟨k', a'⟩ := e
    by_cases h : k' = k
    · simp [insert, h]
    · have h' : ¬ k = k' := fun hk => h hk.symm
      simp only [insert, h, if_false, List.map_cons, ih, List.mem_cons, h', false_or]
      split <;> simp

theorem nodup_keys_insert (k : κ) (a : α) {l : List (κ × α)} (h : (l.map Prod.fst).Nodup) :
    ((insert k a l).map Prod.fst).Nodup := by
  rw [keys_insert]
  split
  · exact h
  · rename_i hk
    rw [List.nodup_append]
    refine ⟨h, by simp, ?_⟩
    intro x hx y hy
    simp only [List.mem_singleton] at hy
    subst hy
    exact fun hxy => hk (hxy ▸ hx)

theorem nodup_keys_foldl_insert (l acc : List (κ × α)) (h : (acc.map Prod.fst).Nodup) :
    ((l.foldl (fun acc e => insert e.1 e.2 acc) acc).map Prod.fst).Nodup := by
  induction l generalizing acc with
  | nil => exact h
  | cons e rest ih => exact ih _ (nodup_keys_insert _ _ h)

theorem find?_insert (k k' : κ) (a : α) (l : List (κ × α)) :
    find? k' (insert k a l) = if k = k' then some a else find? k' l := by
  induction l with
  | nil => simp [insert, find?]
  | cons e rest ih =>
    obtain ⟨k₀, a₀⟩ := e
    by_cases h : k₀ = k
    · subst h
      by_cases h' : k₀ = k' <;> simp [insert, find?, h']
    · by_cases h' : k₀ = k'
      · subst h'
        have hk : ¬ k = k₀ := fun hk => h hk.symm
        simp [insert, find?, h, hk]
      · simp [insert, find?, h, h', ih]

theorem find?_eq_some_iff {l : List (κ × α)} (h : (l.map Prod.fst).Nodup) {k : κ} {a : α} :
    find? k l = some a ↔ (k, a) ∈ l := by
  induction l with
  | nil => simp [find?]
  | cons e rest ih =>
    obtain ⟨k', a'⟩ := e
    rw [List.map_cons, List.nodup_cons] at h
    by_cases hk : k' = k
    · subst hk
      have hrest : (k', a) ∉ rest := fun hmem => h.1 (List.mem_map.mpr ⟨(k', a), hmem, rfl⟩)
      simp [find?, hrest, @eq_comm _ a']
    · have hk' : ¬ k = k' := fun heq => hk heq.symm
      simp [find?, hk, hk', ih h.2]

theorem find?_map (f : κ → α → β) (k : κ) (l : List (κ × α)) :
    find? k (l.map fun e => (e.1, f e.1 e.2)) = (find? k l).map (f k) := by
  induction l with
  | nil => rfl
  | cons e rest ih =>
    obtain ⟨k', a'⟩ := e
    by_cases hk : k' = k
    · subst hk
      simp [find?]
    · simp [find?, hk, ih]

end Assoc

/-! ## The map type -/

/-- A map in insertion order; no key occurs twice. -/
structure OrderedMap (κ α : Type) where
  /-- The entries, oldest key first. -/
  entries : List (κ × α)
  nodup_keys : (entries.map Prod.fst).Nodup

namespace OrderedMap

variable {κ α β : Type}

def empty : OrderedMap κ α := ⟨[], by simp⟩

instance : EmptyCollection (OrderedMap κ α) := ⟨empty⟩

instance : Inhabited (OrderedMap κ α) := ⟨empty⟩

/-- The keys in the order in which they first came in. -/
def keys (m : OrderedMap κ α) : List κ := m.entries.map Prod.fst

/-- The values in the order of their keys. -/
def values (m : OrderedMap κ α) : List α := m.entries.map Prod.snd

/-- The number of keys. -/
def size (m : OrderedMap κ α) : Nat := m.entries.length

/-- True of the map without entries. -/
def isEmpty (m : OrderedMap κ α) : Bool := m.entries.isEmpty

/-- Applies `f` to every value, which keeps the keys. -/
def map (f : κ → α → β) (m : OrderedMap κ α) : OrderedMap κ β :=
  ⟨m.entries.map fun e => (e.1, f e.1 e.2), by
    rw [List.map_map]
    exact m.nodup_keys⟩

/-- Keeps the entries that pass the test, in their order. -/
def filter (p : κ → α → Bool) (m : OrderedMap κ α) : OrderedMap κ α :=
  ⟨m.entries.filter fun e => p e.1 e.2,
    List.Sublist.nodup (List.Sublist.map _ List.filter_sublist) m.nodup_keys⟩

section Keyed

variable [DecidableEq κ]

/-- Writes `a` at `k`: in place if the key is there, at the end otherwise. -/
def insert (m : OrderedMap κ α) (k : κ) (a : α) : OrderedMap κ α :=
  ⟨Assoc.insert k a m.entries, Assoc.nodup_keys_insert k a m.nodup_keys⟩

/-- The value at `k`. -/
def get? (m : OrderedMap κ α) (k : κ) : Option α := Assoc.find? k m.entries

/-- True if `k` is a key. -/
def contains (m : OrderedMap κ α) (k : κ) : Bool := decide (k ∈ m.keys)

/-- The map of a list of pairs: a repeated key keeps its first place and takes its last value. -/
def ofList (entries : List (κ × α)) : OrderedMap κ α :=
  ⟨Assoc.dedup entries, Assoc.nodup_keys_foldl_insert entries [] (by simp)⟩

/-- Writes every entry of `other`, in its order. -/
def insertAll (m other : OrderedMap κ α) : OrderedMap κ α :=
  other.entries.foldl (fun acc e => acc.insert e.1 e.2) m

/-- True if both maps have the same keys and `eqv` holds of the two values at each; order is
ignored. -/
def sameBy (eqv : α → α → Bool) (m other : OrderedMap κ α) : Bool :=
  m.size == other.size &&
    m.entries.all fun e =>
      match other.get? e.1 with
      | some a => eqv e.2 a
      | none => false

@[simp]
theorem keys_insert (m : OrderedMap κ α) (k : κ) (a : α) :
    (m.insert k a).keys = if k ∈ m.keys then m.keys else m.keys ++ [k] :=
  Assoc.keys_insert k a m.entries

@[simp]
theorem get?_insert (m : OrderedMap κ α) (k k' : κ) (a : α) :
    (m.insert k a).get? k' = if k = k' then some a else m.get? k' :=
  Assoc.find?_insert k k' a m.entries

theorem get?_eq_some_iff {m : OrderedMap κ α} {k : κ} {a : α} :
    m.get? k = some a ↔ (k, a) ∈ m.entries :=
  Assoc.find?_eq_some_iff m.nodup_keys

theorem get?_map (f : κ → α → β) (m : OrderedMap κ α) (k : κ) :
    (m.map f).get? k = (m.get? k).map (f k) :=
  Assoc.find?_map f k m.entries

end Keyed

@[simp]
theorem keys_map (f : κ → α → β) (m : OrderedMap κ α) : (m.map f).keys = m.keys := by
  simp [keys, map]

end OrderedMap

end ShellFlow

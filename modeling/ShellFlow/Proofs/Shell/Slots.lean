import Mathlib.Algebra.Ring.Nat
import Mathlib.Data.List.Basic
import ShellFlow.Proofs.Shell.Assignment

/-!
# Lists in shell text

The text of a list is that of its items with a blank between each two of them, and so is the text of
each item that is a list itself. All the blanks in between are the same, so the text can be put
together at once, from the leaves of the value. An empty list counts as well: it has no leaf, but
its text, which is empty, has blanks around it all the same.

* **`Value.slots`**, **`Value.emptySequences`** — the leaves with something in the place of each
  empty list, and how many of these there are.
* **`joined`**, **`joined_flatMap`** — words with blanks in between, made of such words.
* **`toShell_eq_slots`** — the text of a value, from its slots.
* **`length_intercalate_slots`** — how much longer the text from the slots is than that from the
  leaves.
-/

namespace ShellFlow

namespace Value

/-! ## Slots -/

mutual

/-- The leaves of a value, and an absent value for every list or tuple that is empty. -/
def slots : Value → List Value
  | .list [] => [.null]
  | .tuple [] => [.null]
  | .list items => slotsOfItems items
  | .tuple items => slotsOfItems items
  | v => [v]
termination_by structural v => v

def slotsOfItems : List Value → List Value
  | [] => []
  | item :: rest => slots item ++ slotsOfItems rest
termination_by structural items => items

end

mutual

/-- How many lists and tuples in a value are empty, at any depth, the value itself included. -/
def emptySequences : Value → Nat
  | .list [] => 1
  | .tuple [] => 1
  | .list items => emptySequencesOfItems items
  | .tuple items => emptySequencesOfItems items
  | _ => 0
termination_by structural v => v

def emptySequencesOfItems : List Value → Nat
  | [] => 0
  | item :: rest => emptySequences item + emptySequencesOfItems rest
termination_by structural items => items

end

theorem slotsOfItems_eq_flatMap (items : List Value) :
    slotsOfItems items = items.flatMap slots := by
  induction items with
  | nil => rfl
  | cons item rest ih => rw [slotsOfItems, ih, List.flatMap_cons]

theorem emptySequencesOfItems_eq_sum (items : List Value) :
    emptySequencesOfItems items = (items.map emptySequences).sum := by
  induction items with
  | nil => rfl
  | cons item rest ih => rw [emptySequencesOfItems, ih, List.map_cons, List.sum_cons]

@[simp]
theorem slots_list_cons (item : Value) (rest : List Value) :
    (list (item :: rest)).slots = (item :: rest).flatMap slots :=
  slotsOfItems_eq_flatMap (item :: rest)

@[simp]
theorem slots_tuple_cons (item : Value) (rest : List Value) :
    (tuple (item :: rest)).slots = (item :: rest).flatMap slots :=
  slotsOfItems_eq_flatMap (item :: rest)

@[simp]
theorem emptySequences_list_cons (item : Value) (rest : List Value) :
    (list (item :: rest)).emptySequences = ((item :: rest).map emptySequences).sum :=
  emptySequencesOfItems_eq_sum (item :: rest)

@[simp]
theorem emptySequences_tuple_cons (item : Value) (rest : List Value) :
    (tuple (item :: rest)).emptySequences = ((item :: rest).map emptySequences).sum :=
  emptySequencesOfItems_eq_sum (item :: rest)

theorem slots_of_not_isSequence {v : Value} (h : v.isSequence = false) : v.slots = [v] := by
  cases v with
  | list items | tuple items => cases h
  | null | bool _ | int _ | float _ | text _ | mapping _ | path _ | bytes _ | object _ _
  | struct _ _ _ | noDefault | reference _ => rfl

theorem emptySequences_of_not_isSequence {v : Value} (h : v.isSequence = false) :
    v.emptySequences = 0 := by
  cases v with
  | list items | tuple items => cases h
  | null | bool _ | int _ | float _ | text _ | mapping _ | path _ | bytes _ | object _ _
  | struct _ _ _ | noDefault | reference _ => rfl

/-- Every value has a slot; an empty list has one as well, which is the point of them. -/
theorem slots_ne_nil (v : Value) : v.slots ≠ [] := by
  induction v using sequenceInduction with
  | list items ih | tuple items ih =>
    cases items with
    | nil => exact List.cons_ne_nil _ _
    | cons item rest => simp [ih item List.mem_cons_self]
  | leaf v h => simp [slots_of_not_isSequence h]

/-- A slot is a leaf, unless it stands for an empty list. -/
theorem mem_leaves_of_mem_slots (v : Value) : ∀ slot ∈ v.slots, slot = .null ∨ slot ∈ v.leaves := by
  induction v using sequenceInduction with
  | list items ih | tuple items ih =>
    cases items with
    | nil => simp [slots]
    | cons item rest =>
      intro slot hslot
      simp only [slots_list_cons, slots_tuple_cons, leaves_list, leaves_tuple, List.mem_flatMap]
        at hslot ⊢
      obtain ⟨i, hi, hslot⟩ := hslot
      exact (ih i hi slot hslot).imp_right fun hleaf => ⟨i, hi, hleaf⟩
  | leaf v h =>
    rw [slots_of_not_isSequence h, leaves_of_not_isSequence h]
    exact fun slot hslot => Or.inr hslot

/-- A sum over the slots that counts every absent value as one exceeds the sum over the leaves by
the number of empty lists and tuples. -/
theorem sum_slots {weight : Value → Nat} (h : weight .null = 1) (v : Value) :
    (v.slots.map weight).sum = (v.leaves.map weight).sum + v.emptySequences := by
  have hitems : ∀ items : List Value,
      (∀ item ∈ items, (item.slots.map weight).sum =
        (item.leaves.map weight).sum + item.emptySequences) →
      ((items.flatMap slots).map weight).sum =
        ((items.flatMap leaves).map weight).sum + (items.map emptySequences).sum := by
    intro items ih
    induction items with
    | nil => rfl
    | cons item rest ihrest =>
      have hitem := ih item List.mem_cons_self
      have hrest := ihrest fun i hi => ih i (List.mem_cons_of_mem _ hi)
      simp only [List.flatMap_cons, List.map_append, List.sum_append, List.map_cons, List.sum_cons]
      omega
  induction v using sequenceInduction with
  | list items ih | tuple items ih =>
    cases items with
    | nil => simp [slots, emptySequences, h]
    | cons item rest => simpa using hitems (item :: rest) ih
  | leaf v hv =>
    simp [slots_of_not_isSequence hv, leaves_of_not_isSequence hv,
      emptySequences_of_not_isSequence hv]

/-- Without empty lists and tuples the slots are the leaves. -/
theorem slots_eq_leaves {v : Value} (h : v.emptySequences = 0) : v.slots = v.leaves := by
  induction v using sequenceInduction with
  | list items ih | tuple items ih =>
    cases items with
    | nil => cases h
    | cons item rest =>
      simp only [emptySequences_list_cons, emptySequences_tuple_cons,
        List.sum_eq_zero_iff_forall_eq_nat, List.forall_mem_map] at h
      simp only [slots_list_cons, slots_tuple_cons, leaves_list, leaves_tuple]
      exact List.flatMap_congr fun i hi => ih i hi (h i hi)
  | leaf v hv => rw [slots_of_not_isSequence hv, leaves_of_not_isSequence hv]

end Value

/-! ## Texts of lists -/

namespace Shell

open Value

theorem length_of_mapM_eq_ok {f : Value → Except Failure String} {l : List Value}
    {words : List String} (h : l.mapM f = .ok words) : words.length = l.length := by
  induction l generalizing words with
  | nil =>
    cases h
    rfl
  | cons v rest ih =>
    obtain ⟨word, more, -, hmore, rfl⟩ := Success.mapM_cons_eq_ok.mp h
    rw [List.length_cons, List.length_cons, ih hmore]

/-- The words of some values with blanks in between. -/
def joined (f : Value → Except Failure String) (l : List Value) : Except Failure String :=
  (l.mapM f).map (" ".intercalate ·)

theorem joined_singleton (f : Value → Except Failure String) (v : Value) : joined f [v] = f v := by
  rw [joined, List.mapM_cons]
  cases f v with
  | error e => rfl
  | ok word => simp [bind, Except.bind, pure, Except.pure, Except.map]

/-- Two lists of words with a blank in between. Both must have a word, as the blank would otherwise
be missing on the left. -/
theorem joined_append (f : Value → Except Failure String) {l l' : List Value} (hl : l ≠ [])
    (hl' : l' ≠ []) :
    joined f (l ++ l') = (do
      let front ← joined f l
      let back ← joined f l'
      .ok (front ++ " " ++ back)) := by
  have hne : ∀ {l : List Value} {words : List String}, l ≠ [] → l.mapM f = .ok words →
      words ≠ [] := by
    intro l words hl hwords
    rw [← List.length_pos_iff, length_of_mapM_eq_ok hwords]
    exact List.length_pos_iff.mpr hl
  unfold joined
  rw [List.mapM_append]
  cases hfirst : l.mapM f with
  | error e => rfl
  | ok words =>
    cases hsecond : l'.mapM f with
    | error e => rfl
    | ok words' =>
      exact congrArg Except.ok
        (String.intercalate_append_of_ne_nil (hne hl hfirst) (hne hl' hsecond))

/-- Where each word is made of others with blanks in between, all of these can be joined at once. -/
theorem joined_flatMap {f : Value → Except Failure String} {parts : Value → List Value}
    (hparts : ∀ v, parts v ≠ []) {items : List Value} (hne : items ≠ [])
    (h : ∀ item ∈ items, f item = joined f (parts item)) :
    joined f items = joined f (items.flatMap parts) := by
  induction items with
  | nil => exact absurd rfl hne
  | cons item rest ih =>
    have hitem := h item List.mem_cons_self
    cases rest with
    | nil => rw [joined_singleton, List.flatMap_singleton, hitem]
    | cons next more =>
      have hrest := ih (List.cons_ne_nil _ _) fun i hi => h i (List.mem_cons_of_mem _ hi)
      have hflat : (next :: more).flatMap parts ≠ [] := by
        simp [hparts]
      -- both sides come apart into the first word and the others
      rw [← List.singleton_append, joined_append f (List.cons_ne_nil _ _) (List.cons_ne_nil _ _),
        joined_singleton, hitem, hrest]
      exact (joined_append f (hparts item) hflat).symm

/-- The text of a value is made of the texts of its slots, with a blank between each two of them; it
fails where the first of them fails. -/
theorem toShell_eq_slots (quoted : Bool) (v : Value) :
    toShell quoted v = joined (toShell quoted) v.slots := by
  have hitems : ∀ items : List Value, toShell quoted (.list items) = joined (toShell quoted) items
      ∧ toShell quoted (.tuple items) = joined (toShell quoted) items := by
    intro items
    simp only [toShell, joined, toShellItems_eq_mapM]
    cases items.mapM (toShell quoted) <;> exact ⟨rfl, rfl⟩
  induction v using sequenceInduction with
  | list items ih | tuple items ih =>
    cases items with
    | nil => rfl
    | cons item rest =>
      simp only [hitems, slots_list_cons, slots_tuple_cons]
      exact joined_flatMap slots_ne_nil (List.cons_ne_nil _ _) ih
  | leaf v h => rw [slots_of_not_isSequence h, joined_singleton]

/-- The blanks count one less than the texts. Written with an addition on both sides, the equation
stays one about natural numbers that needs no case for a single text. -/
theorem length_intercalate {texts : List String} (h : texts ≠ []) :
    (" ".intercalate texts).length + 1 = (texts.map fun s => s.length + 1).sum := by
  induction texts with
  | nil => exact absurd rfl h
  | cons s rest ih =>
    cases rest with
    | nil => simp
    | cons next more =>
      have hrest := ih (List.cons_ne_nil _ _)
      have hblank : " ".length = 1 := rfl
      rw [String.intercalate_cons_cons, List.map_cons, List.sum_cons, ← hrest]
      simp only [String.length_append, hblank]
      omega

/-- Every empty list or tuple adds a blank to the text of a value. -/
theorem length_intercalate_slots {text : Value → String} (hnull : text .null = "") {v : Value}
    (h : v.leaves ≠ []) :
    (" ".intercalate (v.slots.map text)).length =
      (" ".intercalate (v.leaves.map text)).length + v.emptySequences := by
  have hweight : (text .null).length + 1 = 1 := by
    rw [hnull]
    rfl
  have hsum := @sum_slots (fun slot => (text slot).length + 1) hweight v
  have hslots := @length_intercalate (v.slots.map text) (by simp [slots_ne_nil])
  have hleaves := @length_intercalate (v.leaves.map text) (by simpa using h)
  rw [List.map_map] at hslots hleaves
  simp only [Function.comp_def] at hslots hleaves
  omega

end Shell

end ShellFlow

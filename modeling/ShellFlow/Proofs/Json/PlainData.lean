import ShellFlow.Json.OfValue
import ShellFlow.Proofs.Insertions
import ShellFlow.Proofs.Success

/-!
# Plain data

What becomes of a value in an engine record is plain at every depth: no references, paths or
instances are left, tuples have become lists, and the keys of a mapping are texts of which none
stands twice. What is plain already stays as it is, so a second conversion changes nothing.

* **`Value.containerInduction`** — statements about all values, by what is in a container.
* **`Value.isPlain_of_toJsonWith`** — what comes out is plain.
* **`Value.IsPlain.exists_toJsonWith`** — what is plain comes out as it went in.
* **`Value.toJson_plain`** — both, and that nothing else comes out as it went in.
-/

namespace ShellFlow

namespace Value

/-! ## Containers -/

def isContainer : Value → Bool
  | .list _ | .tuple _ | .mapping _ | .struct .. => true
  | _ => false

/-- Induction on plain data, with one hypothesis for all items of an array or an object. The
recursor that comes with the type speaks of the lists in it instead. -/
@[elab_as_elim]
theorem containerInduction {motive : Value → Prop}
    (list : ∀ items, (∀ item ∈ items, motive item) → motive (.list items))
    (tuple : ∀ items, (∀ item ∈ items, motive item) → motive (.tuple items))
    (mapping : ∀ entries : List (Value × Value), (∀ e ∈ entries, motive e.2) →
      motive (.mapping entries))
    (struct : ∀ mark name (fields : List (String × Value)), (∀ f ∈ fields, motive f.2) →
      motive (.struct mark name fields))
    (leaf : ∀ v : Value, v.isContainer = false → motive v) : ∀ v, motive v
  | .list items => list items fun item _ => containerInduction list tuple mapping struct leaf item
  | .tuple items => tuple items fun item _ => containerInduction list tuple mapping struct leaf item
  | .mapping entries =>
    mapping entries fun e _ => containerInduction list tuple mapping struct leaf e.2
  | .struct mark name fields =>
    struct mark name fields fun f _ => containerInduction list tuple mapping struct leaf f.2
  | .null | .bool _ | .int _ | .float _ | .text _ | .path _ | .bytes _ | .object _ _ | .noDefault
  | .reference _ => leaf _ rfl
termination_by v => sizeOf v
decreasing_by
  · have := List.sizeOf_lt_of_mem ‹_›
    simp only [Value.list.sizeOf_spec]
    omega
  · have := List.sizeOf_lt_of_mem ‹_›
    simp only [Value.tuple.sizeOf_spec]
    omega
  · obtain ⟨key, value⟩ := e
    have := List.sizeOf_lt_of_mem ‹_›
    simp only [Value.mapping.sizeOf_spec, Prod.mk.sizeOf_spec] at this ⊢
    omega
  · obtain ⟨key, value⟩ := f
    have := List.sizeOf_lt_of_mem ‹_›
    simp only [Value.struct.sizeOf_spec, Prod.mk.sizeOf_spec] at this ⊢
    omega

/-! ## The conversion, container by container

One equation for each kind of container says what it is converted to, in terms of its parts. The
inductions below use these and never unfold the conversion. -/

/-- An entry of a mapping as a field. -/
def entryToJson (tagged : Bool) (e : Value × Value) : Except Failure (String × Json) := do
  checkKey tagged e.1
  let j ← e.2.toJsonWith tagged
  .ok (e.1.display, j)

/-- A field of an instance as a field. -/
def fieldToJson (f : String × Value) : Except Failure (String × Json) := do
  let j ← f.2.toJsonWith false
  .ok (f.1, j)

variable {tagged : Bool} {v : Value} {j : Json} {items : List Value}
  {entries : List (Value × Value)} {fields : List (String × Value)}

/-- The items of a list are converted one by one, and the first that fails ends it. -/
theorem itemsToJson_eq_mapM (tagged : Bool) (items : List Value) :
    itemsToJson tagged items = items.mapM (toJsonWith tagged) := by
  induction items with
  | nil => rfl
  | cons item rest ih =>
    rw [itemsToJson, ih, List.mapM_cons]
    rfl

/-- The entries of a mapping are converted one by one, and the first that fails ends it. -/
theorem entriesToJson_eq_mapM (tagged : Bool) (entries : List (Value × Value)) :
    entriesToJson tagged entries = entries.mapM (entryToJson tagged) := by
  induction entries with
  | nil => rfl
  | cons e rest ih =>
    obtain ⟨key, value⟩ := e
    rw [entriesToJson, ih, List.mapM_cons, entryToJson]
    cases checkKey tagged key with
    | error failure => rfl
    | ok _ => cases value.toJsonWith tagged <;> rfl

/-- The fields of an instance are converted one by one, and the first that fails ends it. -/
theorem fieldsToJson_eq_mapM (fields : List (String × Value)) :
    fieldsToJson fields = fields.mapM fieldToJson := by
  induction fields with
  | nil => rfl
  | cons f rest ih =>
    obtain ⟨name, value⟩ := f
    rw [fieldsToJson, ih, List.mapM_cons, fieldToJson]
    cases value.toJsonWith false <;> rfl

/-- A list becomes an array of what its items become. -/
theorem toJsonWith_list_eq_ok_iff : (list items).toJsonWith tagged = .ok j ↔
    ∃ js, items.mapM (toJsonWith tagged) = .ok js ∧ j = .array js := by
  rw [toJsonWith, itemsToJson_eq_mapM, Success.bind_eq_ok]
  simp only [Except.ok.injEq, @eq_comm _ j]

/-- A tuple is converted like the list of its items. -/
theorem toJsonWith_tuple (tagged : Bool) (items : List Value) :
    (tuple items).toJsonWith tagged = (list items).toJsonWith tagged := by
  rw [toJsonWith, toJsonWith]

/-- A mapping becomes an object. Keys that are displayed alike become one field, with the value of
the last. -/
theorem toJsonWith_mapping_eq_ok_iff : (mapping entries).toJsonWith tagged = .ok j ↔
    ∃ fs, entries.mapM (entryToJson tagged) = .ok fs ∧ j = .object (OrderedMap.ofList fs).entries := by
  rw [toJsonWith, entriesToJson_eq_mapM, Success.bind_eq_ok]
  simp only [Except.ok.injEq, @eq_comm _ j]
  rfl

/-- An instance becomes an object of its fields, under their names. -/
theorem toJsonWith_struct_eq_ok_iff {mark : Nat} {name : String} :
    (struct mark name fields).toJsonWith tagged = .ok j ↔
      ∃ fs, fields.mapM fieldToJson = .ok fs ∧ j = .object (OrderedMap.ofList fs).entries := by
  rw [toJsonWith, fieldsToJson_eq_mapM, Success.bind_eq_ok]
  simp only [Except.ok.injEq, @eq_comm _ j]
  rfl

/-- An entry is converted if its key is not refused and its value can be converted; the key becomes
its display. -/
theorem entryToJson_eq_ok_iff {e : Value × Value} {f : String × Json} :
    entryToJson tagged e = .ok f ↔
      checkKey tagged e.1 = .ok () ∧ e.2.toJsonWith tagged = .ok f.2 ∧ f.1 = e.1.display := by
  rw [entryToJson, Success.bind_eq_ok]
  obtain ⟨name, j⟩ := f
  constructor
  · rintro ⟨_, hkey, h⟩
    obtain ⟨j', hj, h⟩ := Success.bind_eq_ok.mp h
    cases h
    exact ⟨hkey, hj, rfl⟩
  · rintro ⟨hkey, hj, rfl⟩
    exact ⟨(), hkey, Success.bind_eq_ok.mpr ⟨j, hj, rfl⟩⟩

/-- A field is converted if its value can be. References in it lose their tags here, whatever holds
outside. -/
theorem fieldToJson_eq_ok_iff {f : String × Value} {g : String × Json} :
    fieldToJson f = .ok g ↔ f.2.toJsonWith false = .ok g.2 ∧ g.1 = f.1 := by
  rw [fieldToJson, Success.bind_eq_ok]
  obtain ⟨name, j⟩ := g
  constructor
  · rintro ⟨j', hj, h⟩
    cases h
    exact ⟨hj, rfl⟩
  · rintro ⟨hj, rfl⟩
    exact ⟨j, hj, rfl⟩

end Value

/-! ## Plain data as values -/

namespace Json

theorem itemsToValues_eq_map (items : List Json) : toValue.itemsToValues items = items.map toValue := by
  induction items with
  | nil => rfl
  | cons item rest ih => rw [toValue.itemsToValues, ih, List.map_cons]

theorem fieldsToEntries_eq_map (fields : List (String × Json)) :
    toValue.fieldsToEntries fields = fields.map fun f => (.text f.1, f.2.toValue) := by
  induction fields with
  | nil => rfl
  | cons f rest ih =>
    obtain ⟨key, value⟩ := f
    rw [toValue.fieldsToEntries, ih, List.map_cons]

@[simp]
theorem toValue_array (items : List Json) : (array items).toValue = .list (items.map toValue) := by
  rw [toValue, itemsToValues_eq_map]

@[simp]
theorem toValue_object (fields : List (String × Json)) :
    (object fields).toValue = .mapping (fields.map fun f => (.text f.1, f.2.toValue)) := by
  rw [toValue, fieldsToEntries_eq_map]

@[elab_as_elim]
theorem containerInduction {motive : Json → Prop}
    (array : ∀ items, (∀ item ∈ items, motive item) → motive (.array items))
    (object : ∀ fields : List (String × Json), (∀ f ∈ fields, motive f.2) → motive (.object fields))
    (null : motive .null) (bool : ∀ b, motive (.bool b)) (int : ∀ i, motive (.int i))
    (float : ∀ x, motive (.float x)) (text : ∀ s, motive (.text s)) : ∀ j, motive j
  | .array items =>
    array items fun item _ => containerInduction array object null bool int float text item
  | .object fields =>
    object fields fun f _ => containerInduction array object null bool int float text f.2
  | .null => null
  | .bool b => bool b
  | .int i => int i
  | .float x => float x
  | .text s => text s
termination_by j => sizeOf j
decreasing_by
  · have := List.sizeOf_lt_of_mem ‹_›
    simp only [Json.array.sizeOf_spec]
    omega
  · obtain ⟨key, value⟩ := f
    have := List.sizeOf_lt_of_mem ‹_›
    simp only [Json.object.sizeOf_spec, Prod.mk.sizeOf_spec] at this ⊢
    omega

/-- Lists are the same if their items become the same and the function is injective on them. -/
theorem map_eq_map_of_forall {α β : Type} {f : α → β} {l l' : List α}
    (hinj : ∀ a ∈ l, ∀ b, f a = f b → a = b) (h : l.map f = l'.map f) : l = l' := by
  induction l generalizing l' with
  | nil => exact (List.map_eq_nil_iff.mp h.symm).symm
  | cons a rest ih =>
    cases l' with
    | nil => cases h
    | cons b rest' =>
      rw [List.map_cons, List.map_cons, List.cons.injEq] at h
      have hrest := ih (fun c hc => hinj c (List.mem_cons_of_mem _ hc)) h.2
      rw [hinj a List.mem_cons_self b h.1, hrest]

/-- Different data are read back as different values, by induction on the first. -/
theorem toValue_injective (j : Json) : ∀ j' : Json, j.toValue = j'.toValue → j = j' := by
  induction j using containerInduction with
  | array items ih =>
    intro j' h
    cases j' with
    | array items' =>
      rw [toValue_array, toValue_array] at h
      rw [map_eq_map_of_forall ih (Value.list.inj h)]
    | _ => simp [toValue] at h
  | object fields ih =>
    intro j' h
    cases j' with
    | object fields' =>
      rw [toValue_object, toValue_object] at h
      rw [map_eq_map_of_forall ?_ (Value.mapping.inj h)]
      rintro ⟨key, value⟩ hf ⟨key', value'⟩ heq
      rw [Prod.mk.injEq, Value.text.injEq] at heq
      exact Prod.ext heq.1 (ih _ hf value' heq.2)
    | _ => simp [toValue] at h
  | null | bool b | int i | float x | text s =>
    intro j' h
    cases j' <;> simp_all [toValue]

end Json

namespace Value

/-- No references, paths, bytes, instances or other objects at any depth, no tuples, and mappings
from different texts only. -/
inductive IsPlain : Value → Prop
  | null : IsPlain .null
  | bool (b : Bool) : IsPlain (.bool b)
  | int (i : Int) : IsPlain (.int i)
  | float (x : Binary64) : IsPlain (.float x)
  | text (s : String) : IsPlain (.text s)
  | list {items : List Value} : (∀ item ∈ items, IsPlain item) → IsPlain (.list items)
  | mapping {fields : List (String × Value)} : (fields.map Prod.fst).Nodup →
      (∀ f ∈ fields, IsPlain f.2) → IsPlain (.mapping (fields.map fun f => (.text f.1, f.2)))

variable {tagged : Bool} {v : Value} {j : Json}

/-! ## What comes out -/

/-- An object whose keys differ and whose values are plain is plain data. The keys are texts, so
none of them is replaced when it is converted again. -/
theorem isPlain_object {fields : List (String × Json)} (hkeys : (fields.map Prod.fst).Nodup)
    (h : ∀ f ∈ fields, f.2.toValue.IsPlain) : (Json.object fields).toValue.IsPlain := by
  have hvalue : (Json.object fields).toValue =
      .mapping ((fields.map fun f => (f.1, f.2.toValue)).map fun f => (.text f.1, f.2)) := by
    rw [Json.toValue_object, List.map_map]
    rfl
  rw [hvalue]
  refine .mapping ?_ ?_
  · rwa [List.map_map]
  · intro f hf
    obtain ⟨g, hg, rfl⟩ := List.mem_map.mp hf
    exact h g hg

/-- Of the fields that are collected the last ones with their names are left. -/
theorem isPlain_ofList {fields : List (String × Json)} (h : ∀ f ∈ fields, f.2.toValue.IsPlain) :
    (Json.object (OrderedMap.ofList fields).entries).toValue.IsPlain := by
  refine isPlain_object (OrderedMap.ofList fields).nodup_keys fun f hf => ?_
  obtain ⟨front, rest, hsplit, -⟩ :=
    OrderedMap.get?_ofList_eq_some_iff.mp (OrderedMap.get?_eq_some_iff.mpr hf)
  exact h f (hsplit ▸ List.mem_append_right front List.mem_cons_self)

/-- A reference becomes an object of texts, with its tag or without. -/
theorem isPlain_ofReference (tagged : Bool) (r : Reference) :
    (Json.ofReference tagged r).toValue.IsPlain := by
  have htexts : ∀ fields : List (String × String), (fields.map Prod.fst).Nodup →
      (Json.object (fields.map fun f => (f.1, .text f.2))).toValue.IsPlain := by
    intro fields hkeys
    refine isPlain_object (by rwa [List.map_map]) fun f hf => ?_
    obtain ⟨g, -, rfl⟩ := List.mem_map.mp hf
    exact .text g.2
  cases tagged with
  | false => exact htexts r.fields (by cases r <;> simp [Reference.fields])
  | true => exact htexts (("ref", r.tag) :: r.fields) (by cases r <;> simp [Reference.fields])

/-- What is no container becomes plain data, or cannot be converted. -/
theorem isPlain_of_leaf (hleaf : v.isContainer = false) (h : v.toJsonWith tagged = .ok j) :
    j.toValue.IsPlain := by
  cases v with
  | list _ | tuple _ | mapping _ | struct _ _ _ => cases hleaf
  | reference r =>
    cases h
    exact isPlain_ofReference tagged r
  | null =>
    cases h
    exact .null
  | bool b =>
    cases h
    exact .bool b
  | int i =>
    cases h
    exact .int i
  | float x =>
    cases h
    exact .float x
  -- whatever has no form of its own in the document becomes a text
  | text s | path s | bytes s | object mark s | noDefault =>
    cases h
    exact .text _

/-- What comes out is plain. Induction on what is in a container. -/
theorem isPlain_of_toJsonWith (v : Value) :
    ∀ tagged j, v.toJsonWith tagged = .ok j → j.toValue.IsPlain := by
  -- lists and tuples become arrays alike
  have hitems : ∀ items : List Value,
      (∀ item ∈ items, ∀ tagged j, item.toJsonWith tagged = .ok j → j.toValue.IsPlain) →
      ∀ tagged j, (list items).toJsonWith tagged = .ok j → j.toValue.IsPlain := by
    intro items ih tagged j h
    obtain ⟨js, hjs, rfl⟩ := toJsonWith_list_eq_ok_iff.mp h
    rw [Json.toValue_array]
    refine .list fun u hu => ?_
    obtain ⟨k, hk, rfl⟩ := List.mem_map.mp hu
    obtain ⟨item, hitem, hconverts⟩ := Success.exists_of_mem_mapM hjs hk
    exact ih item hitem tagged k hconverts
  induction v using containerInduction with
  | list items ih => exact hitems items ih
  | tuple items ih =>
    intro tagged j h
    rw [toJsonWith_tuple] at h
    exact hitems items ih tagged j h
  | mapping entries ih =>
    intro tagged j h
    obtain ⟨fs, hfs, rfl⟩ := toJsonWith_mapping_eq_ok_iff.mp h
    refine isPlain_ofList fun f hf => ?_
    obtain ⟨e, he, hconverts⟩ := Success.exists_of_mem_mapM hfs hf
    exact ih e he tagged f.2 (entryToJson_eq_ok_iff.mp hconverts).2.1
  | struct mark name fields ih =>
    intro tagged j h
    obtain ⟨fs, hfs, rfl⟩ := toJsonWith_struct_eq_ok_iff.mp h
    refine isPlain_ofList fun f hf => ?_
    obtain ⟨g, hg, hconverts⟩ := Success.exists_of_mem_mapM hfs hf
    exact ih g hg false f.2 (fieldToJson_eq_ok_iff.mp hconverts).1
  | leaf v hleaf => exact fun tagged j h => isPlain_of_leaf hleaf h

/-! ## What stays -/

/-- What is plain comes out as it went in. Induction on how it is plain. -/
theorem IsPlain.exists_toJsonWith (h : v.IsPlain) (tagged : Bool) :
    ∃ j, v.toJsonWith tagged = .ok j ∧ j.toValue = v := by
  induction h with
  | null | bool b | int i | float x | text s => exact ⟨_, rfl, rfl⟩
  | @list items _ ih =>
    obtain ⟨js, hjs, hback⟩ := Success.exists_mapM_eq_ok_map ih
    refine ⟨.array js, toJsonWith_list_eq_ok_iff.mpr ⟨js, hjs, rfl⟩, ?_⟩
    rw [Json.toValue_array, hback]
  | @mapping fields hkeys _ ih =>
    have hfields : ∀ f ∈ fields, ∃ g, entryToJson tagged (.text f.1, f.2) = .ok g
        ∧ (g.1, g.2.toValue) = f := by
      intro f hf
      obtain ⟨j, hj, hback⟩ := ih f hf
      have hkey : checkKey tagged (.text f.1) = .ok () := by simp [checkKey, keyHoldsReference]
      exact ⟨(f.1, j), entryToJson_eq_ok_iff.mpr ⟨hkey, hj, rfl⟩, by rw [hback]⟩
    obtain ⟨gs, hgs, hback⟩ := Success.exists_mapM_eq_ok_map hfields
    -- the texts differ, so nothing is replaced
    have hsame : (OrderedMap.ofList gs).entries = gs := by
      refine OrderedMap.entries_ofList_of_nodup ?_
      rw [← hback, List.map_map] at hkeys
      exact hkeys
    refine ⟨.object gs, toJsonWith_mapping_eq_ok_iff.mpr ⟨gs, ?_, by rw [hsame]⟩, ?_⟩
    · rw [List.mapM_map]
      exact hgs
    · rw [Json.toValue_object, ← hback, List.map_map]
      rfl

/-- **Conversion to plain data.** What comes out is plain and stays as it is when it is converted
again, and only what is plain comes out as it went in. Both halves rest on an induction over the
kinds of values, one for what comes out of a conversion and one for what a plain value becomes. -/
theorem toJson_plain (v : Value) :
    (∀ j, v.toJson = .ok j → j.toValue.IsPlain ∧ j.toValue.toJson = .ok j)
      ∧ (v.IsPlain ↔ ∃ j, v.toJson = .ok j ∧ j.toValue = v) := by
  refine ⟨fun j h => ?_, fun h => h.exists_toJsonWith true, ?_⟩
  · have hplain := isPlain_of_toJsonWith v true j h
    obtain ⟨j', hj', hback⟩ := hplain.exists_toJsonWith true
    rw [Json.toValue_injective j' j hback] at hj'
    exact ⟨hplain, hj'⟩
  · rintro ⟨j, h, hback⟩
    exact hback ▸ isPlain_of_toJsonWith v true j h

/-- A tuple of a path and a reference in an instance, and two keys that are displayed alike. -/
def sourceSettings : Value :=
  .mapping [(.text "source", .struct 0 "Source"
        [("parts", .tuple [.path "src", .reference (.envVar "HOME")])]),
      (.int 1, .bytes "old"), (.text "1", .bool true)]

/-- Settings with an instance, a tuple and keys of several kinds in them. -/
theorem toJson_plain_sourceSettings :
    ∃ j, sourceSettings.toJson = .ok j ∧ j.toValue.IsPlain ∧ j.toValue.toJson = .ok j :=
  ⟨_, rfl, (toJson_plain sourceSettings).1 _ rfl⟩

end Value

end ShellFlow

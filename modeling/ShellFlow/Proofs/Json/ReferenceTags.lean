import ShellFlow.Proofs.Json.PlainData

/-!
# References in plain data

A reference becomes an object with the tag of its kind, wherever it stands in lists, tuples and
mappings. An instance of a structure is different: all that is inside of it loses the tags, so there
a reference cannot be told from a mapping of its fields.

* **`Value.Leads.exists_at?`** — what stands at the end of a path, by induction on the path.
* **`Value.toJsonWith_struct`** — an instance is converted like the mapping of its fields, but
  without tags.
* **`Value.toJsonWith_true_iff`** — the tags matter exactly if there is a reference outside of
  instances.
* **`Value.toJson_references`** — which references have a tag, and which instances are converted
  like the mapping of their fields.
-/

namespace ShellFlow

/-! ## Paths

A path into a value goes on as a path into its document, with indices for items and keys for entries
and fields. Of two entries with one name only the last can be reached, as in the document. -/

/-- A step into a container. -/
inductive Json.Place where
  | index (i : Nat)
  | key (name : String)
  deriving DecidableEq, Repr

namespace Json

/-- What a path leads to. -/
def at? : List Place → Json → Option Json
  | [], j => some j
  | .index i :: path, .array items => items[i]?.bind (at? path)
  | .key name :: path, .object fields => (Assoc.find? name fields).bind (at? path)
  | _ :: _, _ => none

/-- A path goes on from where another one ends. -/
theorem at?_append (path rest : List Place) (j : Json) :
    j.at? (path ++ rest) = (j.at? path).bind (at? rest) := by
  induction path generalizing j with
  | nil => rw [List.nil_append, at?, Option.bind_some]
  | cons place path ih =>
    have hbind : ∀ o : Option Json,
        o.bind (at? (path ++ rest)) = (o.bind (at? path)).bind (at? rest) := by
      intro o
      rw [Option.bind_assoc]
      exact congrArg o.bind (funext ih)
    cases place <;> cases j <;> first | rfl | exact hbind _

end Json

namespace Value

open Json (Place)

/-- The path leads from a value to something in it. What stands under a key that a later one is
displayed like is replaced, so no path leads there. `outside` is true if the path enters no
instance. -/
inductive Leads : (outside : Bool) → List Place → Value → Value → Prop
  | here (v : Value) : Leads true [] v v
  | item {outside : Bool} {path : List Place} {items : List Value} {i : Nat} {item v : Value} :
      items[i]? = some item → Leads outside path item v →
      Leads outside (.index i :: path) (.list items) v
  | tupleItem {outside : Bool} {path : List Place} {items : List Value} {i : Nat} {item v : Value} :
      items[i]? = some item → Leads outside path item v →
      Leads outside (.index i :: path) (.tuple items) v
  | entry {outside : Bool} {path : List Place} {front rest : List (Value × Value)}
      {key item v : Value} :
      key.display ∉ rest.map (fun e => e.1.display) → Leads outside path item v →
      Leads outside (.key key.display :: path) (.mapping (front ++ (key, item) :: rest)) v
  | field {outside : Bool} {path : List Place} {mark : Nat} {kind name : String}
      {front rest : List (String × Value)} {item v : Value} :
      name ∉ rest.map Prod.fst → Leads outside path item v →
      Leads false (.key name :: path) (.struct mark kind (front ++ (name, item) :: rest)) v

def fieldMapping (fields : List (String × Value)) : Value :=
  .mapping (fields.map fun f => (.text f.1, f.2))

variable {tagged outside : Bool} {path : List Place} {v u : Value} {j : Json}

/-! ## What stands at the end of a path -/

/-- The item at an index of a list is found under that index, converted. -/
theorem exists_at?_list {items : List Value} {i : Nat} {item : Value}
    (hitem : items[i]? = some item) (hj : (list items).toJsonWith tagged = .ok j) :
    ∃ k, item.toJsonWith tagged = .ok k ∧ ∀ path, j.at? (.index i :: path) = k.at? path := by
  obtain ⟨js, hjs, rfl⟩ := toJsonWith_list_eq_ok_iff.mp hj
  obtain ⟨k, hk, hat⟩ := Success.exists_getElem?_mapM hjs hitem
  exact ⟨k, hk, fun path => by rw [Json.at?, hat, Option.bind_some]⟩

/-- The last field of a name is what stands under it. -/
theorem at?_ofList {front rest : List (String × Json)} {name : String} {k : Json}
    (hlast : name ∉ rest.map Prod.fst) (path : List Place) :
    (Json.object (OrderedMap.ofList (front ++ (name, k) :: rest)).entries).at? (.key name :: path) =
      k.at? path := by
  have hget : (OrderedMap.ofList (front ++ (name, k) :: rest)).get? name = some k :=
    OrderedMap.get?_ofList_eq_some_iff.mpr ⟨front, rest, rfl, hlast⟩
  rw [OrderedMap.get?] at hget
  rw [Json.at?, hget, Option.bind_some]

/-- The value under a key is found under the display of the key, if no later key is displayed
alike. -/
theorem exists_at?_mapping {front rest : List (Value × Value)} {key item : Value}
    (hlast : key.display ∉ rest.map (fun e => e.1.display))
    (hj : (mapping (front ++ (key, item) :: rest)).toJsonWith tagged = .ok j) :
    ∃ k, item.toJsonWith tagged = .ok k
      ∧ ∀ path, j.at? (.key key.display :: path) = k.at? path := by
  obtain ⟨fs, hfs, rfl⟩ := toJsonWith_mapping_eq_ok_iff.mp hj
  obtain ⟨first, second, -, hsecond, rfl⟩ := Success.mapM_append_eq_ok.mp hfs
  obtain ⟨⟨name, k⟩, more, hf, hmore, rfl⟩ := Success.mapM_cons_eq_ok.mp hsecond
  obtain ⟨-, hk, rfl⟩ := entryToJson_eq_ok_iff.mp hf
  have hnames : more.map Prod.fst = rest.map (fun e => e.1.display) :=
    Success.map_eq_of_mapM (fun _ _ h => (entryToJson_eq_ok_iff.mp h).2.2) hmore
  exact ⟨k, hk, at?_ofList (hnames ▸ hlast)⟩

/-- An instance becomes what the mapping of its fields becomes, less the tags. -/
theorem toJsonWith_struct (tagged : Bool) (mark : Nat) (kind : String)
    (fields : List (String × Value)) :
    (struct mark kind fields).toJsonWith tagged = (fieldMapping fields).toJsonWith false := by
  have hfield : ∀ f : String × Value, entryToJson false (.text f.1, f.2) = fieldToJson f := by
    intro f
    rw [entryToJson, fieldToJson]
    rfl
  have hentries : (fields.map fun f => (Value.text f.1, f.2)).mapM (entryToJson false) =
      fields.mapM fieldToJson := by
    rw [List.mapM_map]
    exact congrArg (fun g => fields.mapM g) (funext hfield)
  rw [fieldMapping, toJsonWith, toJsonWith, fieldsToJson_eq_mapM, entriesToJson_eq_mapM, hentries]

/-- The path that leads through a value leads through what becomes of it, to what becomes of the
end. Behind an instance the tags are gone. Induction on the path. -/
theorem Leads.exists_at? (h : Leads outside path v u) :
    ∀ tagged j, v.toJsonWith tagged = .ok j →
      ∃ k, u.toJsonWith (tagged && outside) = .ok k ∧ j.at? path = some k := by
  induction h with
  | here v =>
    intro tagged j hj
    exact ⟨j, by rwa [Bool.and_true], by rw [Json.at?]⟩
  | item hitem _ ih =>
    intro tagged j hj
    obtain ⟨k, hk, hat⟩ := exists_at?_list hitem hj
    rw [hat]
    exact ih tagged k hk
  | tupleItem hitem _ ih =>
    intro tagged j hj
    rw [toJsonWith_tuple] at hj
    obtain ⟨k, hk, hat⟩ := exists_at?_list hitem hj
    rw [hat]
    exact ih tagged k hk
  | entry hlast _ ih =>
    intro tagged j hj
    obtain ⟨k, hk, hat⟩ := exists_at?_mapping hlast hj
    rw [hat]
    exact ih tagged k hk
  | @field outside path mark kind name front rest item v hlast _ ih =>
    intro tagged j hj
    rw [toJsonWith_struct, fieldMapping, List.map_append, List.map_cons] at hj
    have hnone : (Value.text name).display ∉
        (rest.map fun f => (Value.text f.1, f.2)).map (fun e => e.1.display) := by
      rw [List.map_map]
      exact hlast
    obtain ⟨k, hk, hat⟩ := exists_at?_mapping hnone hj
    -- below an instance everything is converted without tags
    rw [Bool.and_false]
    obtain ⟨k', hk', hat'⟩ := ih false k hk
    exact ⟨k', by rwa [Bool.false_and] at hk', (hat path).trans hat'⟩

/-- The tag of a reference is found in it if it was converted with tags, and nowhere if not. -/
theorem at?_tag (tagged : Bool) (r : Reference) :
    (Json.ofReference tagged r).at? [.key "ref"] = if tagged then some (.text r.tag) else none := by
  cases tagged <;> cases r <;> rfl

/-! ## Where tags matter

The conversion with tags and the one without differ in nothing but references, so they agree on
values that have none. -/

/-- Only references are converted differently with tags. -/
theorem toJsonWith_of_leaf {v : Value} (hleaf : v.isContainer = false)
    (href : ∀ r, v ≠ .reference r) (tagged : Bool) :
    v.toJsonWith tagged = v.toJsonWith false := by
  cases v with
  | list _ | tuple _ | mapping _ | struct _ _ _ => cases hleaf
  | reference r => exact absurd rfl (href r)
  | null | bool _ | int _ | float _ | text _ | path _ | bytes _ | object _ _ | noDefault => rfl

/-- The fields stand under the displays of the keys, in the order of the entries. -/
theorem map_fst_of_mapM {entries : List (Value × Value)} {fs : List (String × Json)}
    (h : entries.mapM (entryToJson tagged) = .ok fs) :
    fs.map Prod.fst = entries.map (fun e => e.1.display) :=
  Success.map_eq_of_mapM (fun _ _ h => (entryToJson_eq_ok_iff.mp h).2.2) h

/-- No reference stands in the value outside of instances. -/
def HasNoReference (v : Value) : Prop := ∀ path r, ¬ Leads true path v (.reference r)

/-- What can be converted without tags can be converted with them, and comes out the same if there
is no reference that gets one. -/
def ConvertsWithTags (v : Value) : Prop :=
  ∀ j, v.toJsonWith false = .ok j →
    ∃ j', v.toJsonWith true = .ok j' ∧ (HasNoReference v → j' = j)

/-- A list can be converted with tags if its items can, and it becomes the same if no reference is
in them. -/
theorem convertsWithTags_list {items : List Value} (h : ∀ item ∈ items, ConvertsWithTags item) :
    ∀ j, (list items).toJsonWith false = .ok j → ∃ j', (list items).toJsonWith true = .ok j'
      ∧ ((∀ item ∈ items, HasNoReference item) → j' = j) := by
  intro j hj
  obtain ⟨js, hjs, rfl⟩ := toJsonWith_list_eq_ok_iff.mp hj
  have hall : ∀ item ∈ items, ∃ k', item.toJsonWith true = .ok k' := by
    intro item hitem
    obtain ⟨k, hk⟩ := Success.exists_eq_ok_of_mapM hjs hitem
    obtain ⟨k', hk', -⟩ := h item hitem k hk
    exact ⟨k', hk'⟩
  obtain ⟨js', hjs'⟩ := Success.exists_mapM_eq_ok hall
  refine ⟨.array js', toJsonWith_list_eq_ok_iff.mpr ⟨js', hjs', rfl⟩, fun hnone => ?_⟩
  have hsame : items.mapM (toJsonWith true) = .ok js := by
    refine Success.mapM_eq_ok_of_forall (fun item hitem k hk => ?_) hjs
    obtain ⟨k', hk', heq⟩ := h item hitem k hk
    rw [hk', heq (hnone item hitem)]
  rw [hjs'] at hsame
  rw [Except.ok.inj hsame]

/-- The same of a mapping. With tags no key is refused, and keys are displayed as they are, so only
the values matter. -/
theorem convertsWithTags_mapping {entries : List (Value × Value)}
    (h : ∀ e ∈ entries, ConvertsWithTags e.2) : ConvertsWithTags (.mapping entries) := by
  intro j hj
  obtain ⟨fs, hfs, rfl⟩ := toJsonWith_mapping_eq_ok_iff.mp hj
  have hall : ∀ e ∈ entries, ∃ f, entryToJson true e = .ok f := by
    intro e he
    obtain ⟨f, hf⟩ := Success.exists_eq_ok_of_mapM hfs he
    obtain ⟨k, hk, -⟩ := h e he f.2 (entryToJson_eq_ok_iff.mp hf).2.1
    exact ⟨(e.1.display, k), entryToJson_eq_ok_iff.mpr ⟨rfl, hk, rfl⟩⟩
  obtain ⟨fs', hfs'⟩ := Success.exists_mapM_eq_ok hall
  refine ⟨_, toJsonWith_mapping_eq_ok_iff.mpr ⟨fs', hfs', rfl⟩, fun hnone => ?_⟩
  -- without references the two conversions have the same entries under every name
  have hmaps : OrderedMap.ofList fs = OrderedMap.ofList fs' := by
    refine OrderedMap.eq_of_get? ?_ fun name k hk => ?_
    · rw [OrderedMap.keys_ofList, OrderedMap.keys_ofList, map_fst_of_mapM hfs,
        map_fst_of_mapM hfs']
    · -- only the last entry of a name counts, and that is one to which a path leads
      obtain ⟨first, second, rfl, hlast⟩ := OrderedMap.get?_ofList_eq_some_iff.mp hk
      obtain ⟨front, ⟨key, item⟩, rest, rfl, hentry, hrest⟩ := Success.mapM_eq_ok_split hfs
      obtain ⟨first', tail, -, htail, rfl⟩ := Success.mapM_append_eq_ok.mp hfs'
      obtain ⟨⟨name', k'⟩, second', hentry', hrest', rfl⟩ := Success.mapM_cons_eq_ok.mp htail
      obtain ⟨-, hitem, rfl⟩ := entryToJson_eq_ok_iff.mp hentry
      obtain ⟨-, hitem', rfl⟩ := entryToJson_eq_ok_iff.mp hentry'
      rw [map_fst_of_mapM hrest] at hlast
      obtain ⟨k'', hk'', heq⟩ := h (key, item) (List.mem_append_right front List.mem_cons_self) k hitem
      rw [hitem'] at hk''
      cases hk''
      have hnoItem : HasNoReference item := fun path r hleads => hnone _ r (.entry hlast hleads)
      obtain rfl : k' = k := heq hnoItem
      exact OrderedMap.get?_ofList_eq_some_iff.mpr
        ⟨first', second', rfl, (map_fst_of_mapM hrest').symm ▸ hlast⟩
  rw [hmaps]

/-- Induction on what is in a container. -/
theorem convertsWithTags (v : Value) : ConvertsWithTags v := by
  induction v using containerInduction with
  | list items ih =>
    intro j hj
    obtain ⟨j', hj', heq⟩ := convertsWithTags_list ih j hj
    refine ⟨j', hj', fun hnone => heq fun item hitem path r hleads => ?_⟩
    obtain ⟨i, hi⟩ := List.getElem?_of_mem hitem
    exact hnone _ r (.item hi hleads)
  | tuple items ih =>
    intro j hj
    rw [toJsonWith_tuple] at hj ⊢
    obtain ⟨j', hj', heq⟩ := convertsWithTags_list ih j hj
    refine ⟨j', hj', fun hnone => heq fun item hitem path r hleads => ?_⟩
    obtain ⟨i, hi⟩ := List.getElem?_of_mem hitem
    exact hnone _ r (.tupleItem hi hleads)
  | mapping entries ih => exact convertsWithTags_mapping ih
  -- an instance is converted without tags either way
  | struct mark kind fields _ =>
    intro j hj
    rw [toJsonWith_struct] at hj ⊢
    exact ⟨j, hj, fun _ => rfl⟩
  | leaf v hleaf =>
    intro j hj
    -- a reference is the one leaf that differs, and it is where it stands
    by_cases href : ∃ r, v = .reference r
    · obtain ⟨r, rfl⟩ := href
      exact ⟨_, rfl, fun hnone => absurd (.here _) (hnone [] r)⟩
    · rw [not_exists] at href
      exact ⟨j, by rwa [toJsonWith_of_leaf hleaf href], fun _ => rfl⟩

/-- A value becomes the same with tags as without exactly if no reference in it gets a tag. -/
theorem toJsonWith_true_iff (h : v.toJsonWith false = .ok j) :
    v.toJsonWith true = .ok j ↔ HasNoReference v := by
  constructor
  · intro htagged path r hleads
    obtain ⟨k, hk, hat⟩ := hleads.exists_at? true j htagged
    obtain ⟨k', hk', hat'⟩ := hleads.exists_at? false j h
    -- the same place would hold the reference both with its tag and without
    have hsame : k = k' := Option.some.inj (hat.symm.trans hat')
    have htag := at?_tag true r
    cases hk
    cases hk'
    rw [show Json.ofReference true r = Json.ofReference false r from hsame, at?_tag] at htag
    cases htag
  · intro hnone
    obtain ⟨j', hj', heq⟩ := convertsWithTags v j h
    rw [hj', heq hnone]

/-- **Where the tags of references are kept.** A reference becomes the object of its fields, and
this has the tag of the reference exactly if the path to it enters no instance. An instance becomes
what the mapping of its fields becomes exactly if no reference stands in them outside of further
instances. The two halves are the same fact, seen from a single reference and from the whole
instance. -/
theorem toJson_references (h : v.toJson = .ok j) :
    (∀ outside path r, Leads outside path v (.reference r) →
      j.at? path = some (Json.ofReference outside r)
        ∧ j.at? (path ++ [.key "ref"]) = if outside then some (.text r.tag) else none)
    ∧ ∀ mark kind fields, v = .struct mark kind fields →
        ((fieldMapping fields).toJson = .ok j ↔ HasNoReference (fieldMapping fields)) := by
  constructor
  · intro outside path r hleads
    obtain ⟨k, hk, hat⟩ := hleads.exists_at? true j h
    rw [Bool.true_and] at hk
    cases hk
    refine ⟨hat, ?_⟩
    rw [Json.at?_append, hat, Option.bind_some, at?_tag]
  · rintro mark kind fields rfl
    rw [toJson, toJsonWith_struct] at h
    exact toJsonWith_true_iff h

/-! ## A policy with a reference in it -/

/-- How often something is tried again, told by an environment variable. -/
def retryPolicy : Value := .struct 0 "RetryPolicy" [("limit", .reference (.envVar "RETRIES"))]

/-- The same limit, outside and inside of the policy. -/
def retrySettings : Value :=
  .mapping [(.text "limit", .reference (.envVar "RETRIES")), (.text "retry", retryPolicy)]

/-- Outside of the policy the variable has its tag, inside it has none, and so the policy does not
become what the mapping of its fields becomes. -/
theorem toJson_references_retryPolicy :
    (∃ j, retrySettings.toJson = .ok j
      ∧ j.at? [.key "limit", .key "ref"] = some (.text "fromEnv")
      ∧ j.at? [.key "retry", .key "limit", .key "ref"] = none)
    ∧ ∃ j, retryPolicy.toJson = .ok j
      ∧ (fieldMapping [("limit", .reference (.envVar "RETRIES"))]).toJson ≠ .ok j := by
  have hvar := Leads.here (.reference (.envVar "RETRIES"))
  have houtside : Leads true [.key "limit"] retrySettings (.reference (.envVar "RETRIES")) :=
    @Leads.entry _ _ [] [_] (.text "limit") _ _ (by decide) hvar
  have hinside : Leads false [.key "limit"] retryPolicy (.reference (.envVar "RETRIES")) :=
    @Leads.field _ _ _ _ "limit" [] [] _ _ (by decide) hvar
  have hpolicy : Leads false [.key "retry", .key "limit"] retrySettings
      (.reference (.envVar "RETRIES")) :=
    @Leads.entry _ _ [_] [] (.text "retry") _ _ (by decide) hinside
  have hfield : Leads true [.key "limit"] (fieldMapping [("limit", .reference (.envVar "RETRIES"))])
      (.reference (.envVar "RETRIES")) :=
    @Leads.entry _ _ [] [] (.text "limit") _ _ (by decide) hvar
  constructor
  · refine ⟨_, rfl, ?_, ?_⟩
    · exact ((toJson_references (v := retrySettings) rfl).1 true _ _ houtside).2
    · exact ((toJson_references (v := retrySettings) rfl).1 false _ _ hpolicy).2
  · refine ⟨_, rfl, fun hsame => ?_⟩
    exact ((toJson_references (v := retryPolicy) rfl).2 0 "RetryPolicy" _ rfl).mp hsame _ _ hfield

end Value

end ShellFlow

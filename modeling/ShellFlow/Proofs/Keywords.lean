import ShellFlow.JobTemplate
import ShellFlow.Proofs.Insertions
import ShellFlow.Proofs.Success

/-!
# Calls by mapping and by keyword

A call can give its values in a mapping, by keyword, or some this way and some the other. The keywords
are written into the mapping one by one, so it makes no difference for a value which way it is given.
There are two exceptions: an action reads the keyword `as_` as the alias of the step, which is `as` in
a mapping, and the call takes two names for itself.

* **`entriesOfCall_eq`** — the values that a call collects, by induction on the keywords.
* **`ofEntries_namedEntries`** — they are read back as they are.
* **`call_of_split`** — calls that give the same values in different ways.
-/

namespace ShellFlow

namespace Invocation

/-- The values of a mapping after the keywords are written into it, under `rename` of their names. -/
def withKeywords (rename : String → String) (values keywords : Invocation) : Invocation :=
  keywords.entries.foldl (fun merged e => merged.insert (rename e.1) e.2) values

/-! ## Values under their names -/

/-- An entry under a text is written like an entry of a map from names. Induction on the entries. -/
theorem insertEntry_map_text (key : String) (v : Value) (l : List (String × Value)) :
    Value.insertEntry (.text key) v (l.map fun e => (Value.text e.1, e.2)) =
      (Assoc.insert key v l).map fun e => (Value.text e.1, e.2) := by
  induction l with
  | nil => rfl
  | cons e rest ih =>
    obtain ⟨key', v'⟩ := e
    by_cases h : key' = key
    · simp [Value.insertEntry, Assoc.insert, Value.same, h]
    · simp [Value.insertEntry, Assoc.insert, Value.same, h, ih]

theorem insertEntry_namedEntries (key : String) (v : Value) (m : Invocation) :
    Value.insertEntry (.text key) v (Value.namedEntries m) = Value.namedEntries (m.insert key v) :=
  insertEntry_map_text key v m.entries

/-- Values under names that are texts are taken as they are. -/
theorem ofEntries_namedEntries (owner : Label) (schema : Schema) (reserved : List String)
    (kind : String) (m : Invocation) :
    ofEntries owner schema reserved kind (Value.namedEntries m) = .ok m := by
  have hnames : ((m.entries.map fun e => (Value.text e.1, e.2)).mapM fun e =>
      e.1.text?.map fun key => (key, e.2)) = some m.entries := by
    refine Success.mapM_map_eq_some ?_ m.entries
    exact fun _ => rfl
  unfold ofEntries Value.namedEntries
  rw [hnames]
  exact congrArg Except.ok (OrderedMap.ofList_entries m)

/-! ## Collecting the values

A call merges its mapping and its keywords before anything else looks at them. What comes of it is a
mapping, in which a keyword replaces what the mapping had under its name. -/

section

variable {rename : String → String} {first : Option Invocation} {keywords : Invocation}

/-- Writing entries over the values of a map, each under the name that its keyword stands for, is
the same for the map and for the list of its entries. Induction on the entries that are written. -/
theorem foldl_insertEntry_namedEntries (l : List (String × Value)) (m : Invocation) :
    l.foldl (fun acc e => Value.insertEntry (.text (rename e.1)) e.2 acc) (Value.namedEntries m) =
      Value.namedEntries (l.foldl (fun merged e => merged.insert (rename e.1) e.2) m) := by
  induction l generalizing m with
  | nil => rfl
  | cons e rest ih => rw [List.foldl_cons, List.foldl_cons, insertEntry_namedEntries, ih]

/-- A call collects the values of its mapping with those of the keywords written over them, if no
keyword has a name that the call takes for itself. -/
theorem entriesOfCall_eq (callee : String)
    (hfree : ∀ key ∈ keywords.keys, key ≠ "self" ∧ key ≠ valuesKey) :
    entriesOfCall callee rename first keywords =
      .ok (Value.namedEntries (withKeywords rename (first.getD ∅) keywords)) := by
  have htaken : keywords.keys.find?
      (fun key => key == "self" || (key == valuesKey && first.isSome)) = none := by
    rw [List.find?_eq_none]
    intro key hkey
    simp [hfree key hkey]
  have hnamed : keywords.entries.filter (fun e => !(e.1 == valuesKey)) = keywords.entries := by
    rw [List.filter_eq_self]
    intro e he
    have hkey := hfree e.1 (List.mem_map_of_mem he)
    simp [hkey.2]
  have habsent : keywords.get? valuesKey = none := by
    rw [OrderedMap.get?_eq_none_iff]
    exact fun hmem => (hfree _ hmem).2 rfl
  simp only [entriesOfCall, htaken, hnamed]
  cases first with
  | some values => exact congrArg Except.ok (foldl_insertEntry_namedEntries keywords.entries values)
  | none =>
    rw [habsent]
    exact congrArg Except.ok (foldl_insertEntry_namedEntries keywords.entries ∅)

/-- Keywords whose names are kept are appended to the values of the mapping. -/
theorem withKeywords_eq_of_split {values all : Invocation}
    (hsplit : all.entries = values.entries ++ keywords.entries)
    (hrename : ∀ key ∈ keywords.keys, rename key = key) :
    withKeywords rename values keywords = all := by
  have hkept : withKeywords rename values keywords = values.insertAll keywords := by
    refine List.foldl_ext _ _ _ fun merged e he => ?_
    rw [hrename e.1 (List.mem_map_of_mem he)]
  have hentries : (values.insertAll keywords).entries = all.entries := by
    unfold OrderedMap.insertAll
    rw [OrderedMap.entries_foldl_insert, hsplit]
    exact Assoc.foldl_insert_of_nodup (hsplit ▸ all.nodup_keys)
  rw [hkept]
  exact OrderedMap.eq_of_entries hentries

end

end Invocation

/-! ## Calls -/

section

open Invocation

variable {first : Option Invocation} {keywords : Invocation}
  (hfree : ∀ key ∈ keywords.keys, key ≠ "self" ∧ key ≠ valuesKey)

include hfree

/-- To call an action is to compile it with the keywords written over the mapping. No other failure
can come in, because all keys are texts. -/
theorem Action.call_eq_compile (action : Action) :
    action.call first keywords =
      action.compile (withKeywords Action.keywordName (first.getD ∅) keywords) := by
  unfold Action.call
  rw [entriesOfCall_eq _ hfree]
  show (ofEntries _ _ _ _ _ >>= fun values => action.compile values) = _
  rw [ofEntries_namedEntries]
  rfl

/-- To call a job template is to compile it with the keywords written over the mapping; here every
keyword stands for itself. -/
theorem JobTemplate.call_eq_compile (template : JobTemplate) :
    template.call first keywords = template.compile (withKeywords id (first.getD ∅) keywords) := by
  unfold JobTemplate.call JobTemplate.invocationOf
  rw [entriesOfCall_eq _ hfree]
  show (ofEntries _ _ _ _ _ >>= fun values => template.compile values) = _
  rw [ofEntries_namedEntries]
  rfl

end

namespace Invocation

/-- **Keywords and mappings are interchangeable.** A call gives the same step or job, or fails in
the same way, whichever of its values it gives by keyword, if it takes no keyword for itself. In a
call of an action the keyword `as_` stands for the name `as`. All that is used of a call is the
mapping it merges its values to, by `withKeywords_eq_of_split`; so nothing here depends on what
compiling does. -/
theorem call_of_split (first : Option Invocation) {keywords all : Invocation}
    (hsplit : all.entries = (first.getD ∅).entries ++ keywords.entries)
    (hfree : ∀ key ∈ keywords.keys, key ≠ "self" ∧ key ≠ valuesKey) :
    (∀ template : JobTemplate,
        template.call first keywords = template.call (some all) ∅
        ∧ template.call (some all) ∅ = template.compile all)
    ∧ ∀ action : Action,
        action.call first keywords =
          action.call (some (withKeywords Action.keywordName (first.getD ∅) keywords)) ∅
        ∧ ("as_" ∉ keywords.keys →
            action.call first keywords = action.call (some all) ∅
            ∧ action.call (some all) ∅ = action.compile all) := by
  have hnone : ∀ key ∈ (∅ : Invocation).keys, key ≠ "self" ∧ key ≠ valuesKey :=
    fun key hkey => absurd hkey List.not_mem_nil
  -- a mapping without keywords is compiled as it is
  have htemplate : ∀ template : JobTemplate, template.call (some all) ∅ = template.compile all :=
    fun template => template.call_eq_compile hnone
  have haction : ∀ (action : Action) (values : Invocation),
      action.call (some values) ∅ = action.compile values :=
    fun action values => action.call_eq_compile hnone
  constructor
  · intro template
    have hmerged : withKeywords id (first.getD ∅) keywords = all :=
      withKeywords_eq_of_split hsplit fun key _ => rfl
    rw [htemplate, template.call_eq_compile hfree, hmerged]
    exact ⟨rfl, rfl⟩
  · intro action
    rw [haction, haction, action.call_eq_compile hfree]
    refine ⟨rfl, fun halias => ?_⟩
    have hmerged : withKeywords Action.keywordName (first.getD ∅) keywords = all := by
      refine withKeywords_eq_of_split hsplit fun key hkey => if_neg ?_
      rintro rfl
      exact halias hkey
    rw [hmerged]
    exact ⟨rfl, rfl⟩

/-! ## An action with an input that the call takes for itself -/

/-- An action with an input of the name by which a call takes its mapping. -/
def deploy : Action where
  name := .text "deploy"
  run := .text ""
  inputs := OrderedMap.ofList [("values", InputType.string), ("target", InputType.string)]
  outputs := []
  packages := []
  description := .text ""

/-- The mapping with a value for each of the inputs. -/
def deployValues : Invocation :=
  OrderedMap.ofList [("values", .text "x"), ("target", .text "staging")]

/-- A value under the name of the mapping parameter itself, which can only be given in the
mapping. -/
theorem call_of_split_deploy :
    deployValues.entries =
      (OrderedMap.ofList [("values", Value.text "x")]).entries
        ++ (OrderedMap.ofList [("target", Value.text "staging")]).entries
    ∧ deploy.call (some (OrderedMap.ofList [("values", .text "x")]))
          (OrderedMap.ofList [("target", .text "staging")]) =
        deploy.call (some deployValues) ∅
    ∧ ∃ step, deploy.call (some deployValues) ∅ = .ok step := by
  have hsplit : deployValues.entries =
      (OrderedMap.ofList [("values", Value.text "x")]).entries
        ++ (OrderedMap.ofList [("target", Value.text "staging")]).entries := rfl
  have hfree : ∀ key ∈ (OrderedMap.ofList [("target", Value.text "staging")]).keys,
      key ≠ "self" ∧ key ≠ valuesKey := by decide
  obtain ⟨-, haction⟩ := call_of_split (some (OrderedMap.ofList [("values", .text "x")])) hsplit hfree
  obtain ⟨-, hcall⟩ := haction deploy
  exact ⟨hsplit, (hcall (by decide)).1, _, rfl⟩

/-- A value under the name `as_` is the alias as a keyword and unknown in a mapping, and a value
under the name `values` is an input in a mapping and refused as a keyword. -/
theorem deploy_keywords_differ :
    Action.define (.text "deploy") (.text "") deploy.inputs (.list []) = .ok deploy
    ∧ (∃ step, deploy.call (some deployValues) (OrderedMap.ofList [("as_", .text "ship")]) = .ok step
        ∧ step.name = .text "ship")
    ∧ deploy.call (some (deployValues.insert "as_" (.text "ship"))) ∅ =
        .error (.unknownInput (.text "deploy") (.text "as_") [.text "values", .text "target"]
          (.text "action"))
    ∧ deploy.call (some ∅) deployValues =
        .error (.unsuitable "ActionSpec.__call__() got multiple values for argument 'values'")
    ∧ ∃ step, deploy.call (some deployValues) ∅ = .ok step :=
  ⟨rfl, ⟨_, rfl, rfl⟩, rfl, rfl, _, rfl⟩

end Invocation

end ShellFlow

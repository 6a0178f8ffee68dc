import ShellFlow.Proofs.Action.Compilation
import ShellFlow.Proofs.Insertions

/-!
# Values of the declared inputs

A call gives values under names, in an order of its own. A name that is not declared is looked for in
the order of the call, an input that is left without a value in the order of the declaration, and the
values come out in the order of the declaration. So the order of a call decides about nothing but
which of several undeclared names is reported.

* **`resolveEntries_eq`** — the declared inputs one after the other, by induction on the declaration.
* **`resolve_of_firstUndeclared`**, **`resolve_of_firstLacking`**, **`resolve_of_fills`** — the three
  outcomes, which **`resolve_eq_iff`** puts together.
* **`resolve_of_perm`** — the same values in another order.
* **`resolve_outcome`** — the outcome of every resolution, and of calls of actions in another order.
-/

namespace ShellFlow

/-! ## The first item of a kind -/

section

variable {α : Type}

/-- The item is the first one in the list that is of a kind. -/
def IsFirst (p : α → Prop) (l : List α) (a : α) : Prop :=
  ∃ before after, l = before ++ a :: after ∧ p a ∧ ∀ b ∈ before, ¬ p b

theorem find?_eq_some_iff_isFirst {p : α → Prop} [DecidablePred p] {l : List α} {a : α} :
    l.find? (fun a => decide (p a)) = some a ↔ IsFirst p l a := by
  rw [List.find?_eq_some_iff_append]
  constructor
  · rintro ⟨ha, before, after, hl, hbefore⟩
    exact ⟨before, after, hl, of_decide_eq_true ha, fun b hb => by simpa using hbefore b hb⟩
  · rintro ⟨before, after, hl, ha, hbefore⟩
    exact ⟨decide_eq_true ha, before, after, hl, fun b hb => by simpa using hbefore b hb⟩

theorem find?_eq_none_iff_forall {p : α → Prop} [DecidablePred p] {l : List α} :
    l.find? (fun a => decide (p a)) = none ↔ ∀ a ∈ l, ¬ p a := by
  rw [List.find?_eq_none]
  simp only [decide_eq_true_eq]

/-- There is a first item with a property as soon as there is one. -/
theorem exists_isFirst_iff {p : α → Prop} [DecidablePred p] {l : List α} :
    (∃ a, IsFirst p l a) ↔ ∃ a ∈ l, p a := by
  constructor
  · rintro ⟨a, before, after, rfl, ha, -⟩
    exact ⟨a, List.mem_append_right _ List.mem_cons_self, ha⟩
  · rintro ⟨a, hmem, ha⟩
    cases hfind : l.find? (fun a => decide (p a)) with
    | none => exact absurd ha (find?_eq_none_iff_forall.mp hfind a hmem)
    | some first => exact ⟨first, find?_eq_some_iff_isFirst.mp hfind⟩

end

namespace Invocation

/-! ## What a resolution says -/

/-- What the schema declares are types. -/
def HoldsTypes (schema : Schema) : Prop := ∀ e ∈ schema.entries, e.2.stray = none

/-- Every given name is declared. -/
def AllDeclared (schema : Schema) (provided : Invocation) : Prop :=
  ∀ key ∈ provided.keys, key ∈ schema.keys

instance (schema : Schema) (provided : Invocation) : Decidable (AllDeclared schema provided) :=
  inferInstanceAs (Decidable (∀ key ∈ provided.keys, key ∈ schema.keys))

/-- The first of the given names that is not declared. -/
def FirstUndeclared (schema : Schema) (provided : Invocation) (key : String) : Prop :=
  IsFirst (fun key => key ∉ schema.keys) provided.keys key

/-- An input that is not given and has no default. -/
def IsLacking (provided : Invocation) (e : String × InputType) : Prop :=
  e.1 ∉ provided.keys ∧ e.2.hasDefault = false

instance (provided : Invocation) : DecidablePred (IsLacking provided) := fun e =>
  inferInstanceAs (Decidable (e.1 ∉ provided.keys ∧ e.2.hasDefault = false))

/-- The name of the first declared input that is not given and has no default. -/
def FirstLacking (schema : Schema) (provided : Invocation) (name : String) : Prop :=
  ∃ t, IsFirst (IsLacking provided) schema.entries (name, t)

/-- No declared input is left without a value. -/
def NoneLacking (schema : Schema) (provided : Invocation) : Prop :=
  ∀ e ∈ schema.entries, ¬ IsLacking provided e

instance (schema : Schema) (provided : Invocation) : Decidable (NoneLacking schema provided) :=
  inferInstanceAs (Decidable (∀ e ∈ schema.entries, ¬ IsLacking provided e))

/-- The given value of an input, whatever it is, or else the default. -/
def valueOf (provided : Invocation) (e : String × InputType) : Value :=
  (provided.get? e.1).getD e.2.default

/-- The declared names and no others, in the order of their declaration, each with the given value or
else the default. -/
structure Fills (schema : Schema) (provided resolved : Invocation) : Prop where
  declared : AllDeclared schema provided
  complete : NoneLacking schema provided
  entries : resolved.entries = schema.entries.map fun e => (e.1, valueOf provided e)

/-- The failure of an undeclared name, with the names that are declared. -/
def unknownInput (owner : Label) (schema : Schema) (kind key : String) : Failure :=
  .unknownInput owner (.text key) (schema.keys.map .text) (.text kind)

/-- The failure of an input that is left without a value. -/
def missingInput (owner : Label) (kind name : String) : Failure :=
  .missingRequiredInput owner (.text name) (.text kind) .null

/-- The outcome of a resolution, by what comes first: a name that is not declared, an input that is
left without a value, or else the values. -/
inductive Resolution (owner : Label) (schema : Schema) (provided : Invocation) (kind : String) :
    Except Failure Invocation → Prop
  | unknown {key : String} :
      FirstUndeclared schema provided key →
      Resolution owner schema provided kind (.error (unknownInput owner schema kind key))
  | missing {name : String} :
      AllDeclared schema provided → FirstLacking schema provided name →
      Resolution owner schema provided kind (.error (missingInput owner kind name))
  | filled {resolved : Invocation} :
      Fills schema provided resolved → Resolution owner schema provided kind (.ok resolved)

variable {owner : Label} {schema : Schema} {provided resolved : Invocation} {kind : String}

/-- There is a first undeclared value exactly if not all values are declared. -/
theorem exists_firstUndeclared_iff :
    (∃ key, FirstUndeclared schema provided key) ↔ ¬ AllDeclared schema provided := by
  unfold FirstUndeclared AllDeclared
  rw [exists_isFirst_iff]
  simp

/-- There is a first input that lacks a value exactly if some input does. -/
theorem exists_firstLacking_iff :
    (∃ name, FirstLacking schema provided name) ↔ ¬ NoneLacking schema provided := by
  have hnamed : (∃ name, FirstLacking schema provided name) ↔
      ∃ e, IsFirst (IsLacking provided) schema.entries e :=
    ⟨fun ⟨name, t, h⟩ => ⟨(name, t), h⟩, fun ⟨(name, t), h⟩ => ⟨name, t, h⟩⟩
  unfold NoneLacking
  rw [hnamed, exists_isFirst_iff]
  simp

/-! ## The declared inputs one after the other -/

/-- What becomes of one input: a failure that names it, or its value. A type never fails to answer
here. -/
theorem resolveInput_eq {e : String × InputType} (htype : e.2.stray = none) :
    resolveInput owner kind provided e.1 e.2 =
      if IsLacking provided e then .error (missingInput owner kind e.1)
      else .ok (valueOf provided e) := by
  unfold resolveInput IsLacking valueOf
  rw [InputType.defaultOf_of_stray_none htype]
  cases hgiven : provided.get? e.1 with
  | some value =>
    have hmem : e.1 ∈ provided.keys := by
      by_contra hmem
      rw [OrderedMap.get?_eq_none_iff.mpr hmem] at hgiven
      cases hgiven
    simp [hmem]
  | none =>
    have hmem : e.1 ∉ provided.keys := OrderedMap.get?_eq_none_iff.mp hgiven
    by_cases hdefault : e.2.hasDefault = true
    · simp [hdefault, bind, Except.bind]
    · simp [hmem, hdefault, bind, Except.bind, missingInput]

/-- The inputs get their values up to the first that is left without one. Induction on the
declaration. -/
theorem resolveEntries_eq {inputs : List (String × InputType)}
    (htypes : ∀ e ∈ inputs, e.2.stray = none) :
    resolveEntries owner kind provided inputs =
      match inputs.find? fun e => decide (IsLacking provided e) with
      | some e => .error (missingInput owner kind e.1)
      | none => .ok (inputs.map fun e => (e.1, valueOf provided e)) := by
  induction inputs with
  | nil => rfl
  | cons e rest ih =>
    obtain ⟨htype, hrest⟩ := List.forall_mem_cons.mp htypes
    rw [resolveEntries, resolveInput_eq htype, ih hrest, List.find?_cons]
    by_cases hlacking : IsLacking provided e
    · simp [hlacking, bind, Except.bind]
    · simp only [hlacking, if_false, decide_false]
      cases rest.find? fun e => decide (IsLacking provided e) with
      | some first => rfl
      | none => rfl

/-! ## The outcomes -/

theorem find?_undeclared (schema : Schema) (provided : Invocation) :
    (provided.keys.find? fun key => !schema.contains key) =
      provided.keys.find? fun key => decide (key ∉ schema.keys) := by
  simp only [OrderedMap.contains, decide_not]

/-- A value for an undeclared input is refused before any input is looked at. -/
theorem resolve_of_firstUndeclared {key : String} (h : FirstUndeclared schema provided key) :
    resolve owner schema provided kind = .error (unknownInput owner schema kind key) := by
  unfold resolve
  rw [find?_undeclared, find?_eq_some_iff_isFirst.mpr h]
  rfl

/-- With declared names only, it is the declared inputs that decide. -/
theorem map_entries_resolve (hdeclared : AllDeclared schema provided) :
    (resolve owner schema provided kind).map OrderedMap.entries =
      resolveEntries owner kind provided schema.entries := by
  have hnone : (provided.keys.find? fun key => !schema.contains key) = none := by
    rw [find?_undeclared, find?_eq_none_iff_forall]
    exact fun key hkey => not_not_intro (hdeclared key hkey)
  unfold resolve
  simp only [hnone]
  split
  · rename_i entries hentries
    exact hentries.symm
  · rename_i e he
    exact he.symm

/-- If all values are declared, the first input without a value and without a default is the one
that is reported. -/
theorem resolve_of_firstLacking (htypes : HoldsTypes schema)
    (hdeclared : AllDeclared schema provided) {name : String}
    (h : FirstLacking schema provided name) :
    resolve owner schema provided kind = .error (missingInput owner kind name) := by
  obtain ⟨t, hfirst⟩ := h
  have hmap : (resolve owner schema provided kind).map OrderedMap.entries = _ :=
    map_entries_resolve hdeclared
  rw [resolveEntries_eq htypes, find?_eq_some_iff_isFirst.mpr hfirst] at hmap
  exact Success.map_eq_error.mp hmap

/-- If nothing is undeclared and nothing lacks, the inputs are filled in the order of their
declaration. -/
theorem resolve_of_fills (htypes : HoldsTypes schema) (h : Fills schema provided resolved) :
    resolve owner schema provided kind = .ok resolved := by
  have hmap : (resolve owner schema provided kind).map OrderedMap.entries = _ :=
    map_entries_resolve h.declared
  rw [resolveEntries_eq htypes, find?_eq_none_iff_forall.mpr h.complete] at hmap
  obtain ⟨resolved', hresolved, hentries⟩ := Success.map_eq_ok.mp hmap
  rw [hresolved, OrderedMap.eq_of_entries (hentries.trans h.entries.symm)]

/-- An input that does not lack a value has one, given or by default. -/
theorem exists_fills (hdeclared : AllDeclared schema provided)
    (hcomplete : NoneLacking schema provided) : ∃ resolved, Fills schema provided resolved := by
  have hkeys : ((schema.entries.map fun e => (e.1, valueOf provided e)).map Prod.fst).Nodup := by
    rw [List.map_map]
    exact schema.nodup_keys
  exact ⟨⟨_, hkeys⟩, hdeclared, hcomplete, rfl⟩

/-- The three cases leave no other: what comes out is what `Resolution` says, and nothing else
is. -/
theorem resolve_eq_iff (htypes : HoldsTypes schema) {result : Except Failure Invocation} :
    resolve owner schema provided kind = result ↔
      Resolution owner schema provided kind result := by
  constructor
  · -- the three ways exclude each other, and one of them is always there
    rintro rfl
    by_cases hdeclared : AllDeclared schema provided
    · by_cases hcomplete : NoneLacking schema provided
      · obtain ⟨resolved, hfills⟩ := exists_fills hdeclared hcomplete
        rw [resolve_of_fills htypes hfills]
        exact .filled hfills
      · obtain ⟨name, hname⟩ := exists_firstLacking_iff.mpr hcomplete
        rw [resolve_of_firstLacking htypes hdeclared hname]
        exact .missing hdeclared hname
    · obtain ⟨key, hkey⟩ := exists_firstUndeclared_iff.mpr hdeclared
      rw [resolve_of_firstUndeclared hkey]
      exact .unknown hkey
  · intro h
    cases h with
    | unknown hkey => exact resolve_of_firstUndeclared hkey
    | missing hdeclared hname => exact resolve_of_firstLacking htypes hdeclared hname
    | filled hfills => exact resolve_of_fills htypes hfills

/-- What was resolved fills the declared inputs. The other two cases of `Resolution` are
failures. -/
theorem fills_of_resolve (htypes : HoldsTypes schema)
    (h : resolve owner schema provided kind = .ok resolved) : Fills schema provided resolved := by
  cases (resolve_eq_iff htypes).mp h with
  | filled hfills => exact hfills

theorem Fills.get?_eq (h : Fills schema provided resolved) {e : String × InputType}
    (he : e ∈ schema.entries) : resolved.get? e.1 = some (valueOf provided e) := by
  rw [OrderedMap.get?_eq_some_iff, h.entries]
  exact List.mem_map.mpr ⟨e, he, rfl⟩

/-- The resolved inputs are the declared ones, in the order of their declaration. -/
theorem Fills.keys (h : Fills schema provided resolved) : resolved.keys = schema.keys := by
  unfold OrderedMap.keys
  rw [h.entries, List.map_map]
  rfl

/-! ## Another order

Which name is the first to be undeclared depends on the order of the call. Whether there is one does
not. -/

/-- The inputs see of a call what is given under their names. Induction on the declaration. -/
theorem resolveEntries_congr {provided' : Invocation}
    (hvalues : ∀ key, provided.get? key = provided'.get? key) (inputs : List (String × InputType)) :
    resolveEntries owner kind provided inputs = resolveEntries owner kind provided' inputs := by
  induction inputs with
  | nil => rfl
  | cons e rest ih => rw [resolveEntries, resolveEntries, resolveInput, resolveInput, hvalues, ih]

theorem allDeclared_of_perm {provided' : Invocation}
    (hperm : provided.entries.Perm provided'.entries) (h : AllDeclared schema provided) :
    AllDeclared schema provided' :=
  fun key hkey => h key ((hperm.map Prod.fst).mem_iff.mpr hkey)

/-- Declared names in another order give the same values, or fail in the same way. -/
theorem resolve_of_perm {provided' : Invocation} (hperm : provided.entries.Perm provided'.entries)
    (hdeclared : AllDeclared schema provided) :
    resolve owner schema provided kind = resolve owner schema provided' kind := by
  have hentries : (resolve owner schema provided kind).map OrderedMap.entries =
      (resolve owner schema provided' kind).map OrderedMap.entries := by
    rw [map_entries_resolve hdeclared, map_entries_resolve (allDeclared_of_perm hperm hdeclared)]
    exact resolveEntries_congr (OrderedMap.get?_eq_of_perm hperm) schema.entries
  cases hresolved : resolve owner schema provided' kind with
  | error e =>
    rw [hresolved] at hentries
    exact Success.map_eq_error.mp hentries
  | ok resolved =>
    rw [hresolved] at hentries
    obtain ⟨resolved', hresolved', hsame⟩ := Success.map_eq_ok.mp hentries
    rw [hresolved', OrderedMap.eq_of_entries hsame]

end Invocation

/-! ## Calls of actions -/

namespace Action

open Invocation

variable {action : Action} {invocation invocation' : Invocation} {carry : CarryChannel}

/-- The step depends on a call by the resolved values and by its own name. -/
theorem compile_congr
    (hresolve : resolve action.name action.inputs (given invocation) "action" =
      resolve action.name action.inputs (given invocation') "action")
    (hname : action.stepName invocation = action.stepName invocation') :
    action.compile invocation carry = action.compile invocation' carry := by
  unfold given at hresolve
  simp only [compile, hresolve, hname]

/-- An undeclared value is the first thing for which a call is refused. -/
theorem compile_of_firstUndeclared {key : String}
    (h : FirstUndeclared action.inputs (given invocation) key) :
    action.compile invocation carry =
      .error (unknownInput action.name action.inputs "action" key) := by
  have hresolve : resolve action.name action.inputs (given invocation) "action" = _ :=
    resolve_of_firstUndeclared h
  unfold given at hresolve
  simp only [compile, hresolve]
  rfl

/-- Leaving out the alias respects the order of the rest. -/
theorem perm_given (hperm : invocation.entries.Perm invocation'.entries) :
    (given invocation).entries.Perm (given invocation').entries :=
  hperm.filter _

/-- Calls that differ in the order of their entries make the same step or fail in the same way, unless
there is an undeclared name in them; and then both report such a name, each the first of its own. -/
theorem compile_of_perm (hperm : invocation.entries.Perm invocation'.entries) :
    (AllDeclared action.inputs (given invocation) →
        action.compile invocation carry = action.compile invocation' carry)
    ∧ (¬ AllDeclared action.inputs (given invocation) →
        ∃ key key', FirstUndeclared action.inputs (given invocation) key
          ∧ FirstUndeclared action.inputs (given invocation') key'
          ∧ action.compile invocation carry =
              .error (unknownInput action.name action.inputs "action" key)
          ∧ action.compile invocation' carry =
              .error (unknownInput action.name action.inputs "action" key')) := by
  constructor
  · intro hdeclared
    refine compile_congr (resolve_of_perm (perm_given hperm) hdeclared) ?_
    unfold stepName
    rw [OrderedMap.get?_eq_of_perm hperm]
  · intro hundeclared
    have hundeclared' : ¬ AllDeclared action.inputs (given invocation') :=
      fun h => hundeclared (allDeclared_of_perm (perm_given hperm).symm h)
    obtain ⟨key, hkey⟩ := exists_firstUndeclared_iff.mpr hundeclared
    obtain ⟨key', hkey'⟩ := exists_firstUndeclared_iff.mpr hundeclared'
    exact ⟨key, key', hkey, hkey', compile_of_firstUndeclared hkey, compile_of_firstUndeclared hkey'⟩

end Action

/-- **What a resolution of inputs comes to.** It reports the first undeclared name, or else the
first input without a value, or else it gives every declared input its value. So calls of an action
that differ in the order of their entries make the same step, or fail with failures of one kind.
Only the first undeclared name depends on the order of the call; everything else goes by the
declaration. -/
theorem Invocation.resolve_outcome :
    (∀ (owner : Label) (schema : Schema) (provided : Invocation) (kind : String),
        HoldsTypes schema →
        (∀ result, resolve owner schema provided kind = result ↔
          Resolution owner schema provided kind result)
        ∧ ((∃ key, FirstUndeclared schema provided key) ↔ ∃ key ∈ provided.keys, key ∉ schema.keys)
        ∧ ((∃ name, FirstLacking schema provided name) ↔
            ∃ e ∈ schema.entries, e.1 ∉ provided.keys ∧ e.2.hasDefault = false))
    ∧ ∀ (action : Action) (invocation invocation' : Invocation) (carry : CarryChannel),
        invocation.entries.Perm invocation'.entries →
        action.compile invocation carry = action.compile invocation' carry
        ∨ ∃ key key', FirstUndeclared action.inputs (Action.given invocation) key
            ∧ FirstUndeclared action.inputs (Action.given invocation') key'
            ∧ action.compile invocation carry =
              .error (unknownInput action.name action.inputs "action" key)
            ∧ action.compile invocation' carry =
              .error (unknownInput action.name action.inputs "action" key') := by
  constructor
  · intro owner schema provided kind htypes
    refine ⟨fun result => resolve_eq_iff htypes, exists_isFirst_iff, ?_⟩
    rw [exists_firstLacking_iff]
    simp [NoneLacking, IsLacking]
  · intro action invocation invocation' carry hperm
    obtain ⟨hsame, hdifferent⟩ := @Action.compile_of_perm action invocation invocation' carry hperm
    by_cases hdeclared : AllDeclared action.inputs (Action.given invocation)
    · exact Or.inl (hsame hdeclared)
    · exact Or.inr (hdifferent hdeclared)

/-! ## A call in two orders -/

namespace Invocation

/-- An action with an input that has a default. -/
def pushImage : Action where
  name := .text "push-image"
  run := .text "echo ok"
  inputs := OrderedMap.ofList
    [("registry", InputType.string), ("tag", { InputType.string with default := .text "latest" })]
  outputs := []
  packages := []
  description := .text ""

/-- A call that gives the absent value where there is a default. -/
def pushCall : Invocation :=
  OrderedMap.ofList [("tag", .null), ("as", .text "push"), ("registry", .text "ghcr.io")]

def reversedPushCall : Invocation :=
  OrderedMap.ofList [("registry", .text "ghcr.io"), ("as", .text "push"), ("tag", .null)]

/-- Two calls that give the same values in another order, one of them an absent value. -/
theorem resolve_outcome_push :
    HoldsTypes pushImage.inputs
    ∧ pushCall.entries.Perm reversedPushCall.entries
    ∧ resolve pushImage.name pushImage.inputs (Action.given pushCall) "action" =
        .ok (OrderedMap.ofList [("registry", .text "ghcr.io"), ("tag", .null)])
    ∧ pushImage.compile pushCall = pushImage.compile reversedPushCall
    ∧ ∃ step, pushImage.compile pushCall = .ok step := by
  have htypes : HoldsTypes pushImage.inputs := by
    intro e he
    rcases List.mem_cons.mp he with rfl | he
    · rfl
    · cases List.mem_singleton.mp he
      rfl
  have hperm : pushCall.entries.Perm reversedPushCall.entries :=
    List.reverse_perm reversedPushCall.entries
  have hfills : Fills pushImage.inputs (Action.given pushCall)
      (OrderedMap.ofList [("registry", .text "ghcr.io"), ("tag", .null)]) :=
    ⟨by decide, by decide, rfl⟩
  obtain ⟨hresolve, hcompile⟩ := resolve_outcome
  refine ⟨htypes, hperm, ((hresolve _ _ _ _ htypes).1 _).mpr (.filled hfills), ?_, _, rfl⟩
  rcases hcompile pushImage pushCall reversedPushCall .standard hperm with
    hsame | ⟨key, -, -, -, h, -⟩
  · exact hsame
  · cases h

end Invocation

end ShellFlow

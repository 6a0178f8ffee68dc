import Mathlib.Data.List.Forall2
import ShellFlow.Proofs.InputType.Defaults

/-!
# What types accept

A type holds its check as a function, which equality of types leaves out. The types that are made
without a custom one do not need it: what they accept can be read off their kind, the type inside of
them and the texts that they allow, all of which are compared.

* **`IsStandard`** — the types that are made without a custom type.
* **`acceptsByForm`** — what a type accepts, without its check.
* **`accepts_eq_byForm`** — the two agree on standard types, by induction on the way the type was
  made.
* **`acceptsByForm_eq_of_eqv`**, **`acceptsByForm_of_replaced`** — equal types and replaced parts,
  by recursion on the types inside of types.
* **`accepts_of_eqv`**, **`accepts_of_replaced`** — the same of the checks of standard types.
-/

namespace ShellFlow

/-- The second value comes from the first by putting references in the place of any of its parts:
the value itself, or items of lists and tuples at any depth. -/
inductive Value.Replaced : Value → Value → Prop
  | same (v : Value) : Replaced v v
  | reference (v : Value) (r : Reference) : Replaced v (.reference r)
  | list {items items' : List Value} :
      List.Forall₂ Replaced items items' → Replaced (.list items) (.list items')
  | tuple {items items' : List Value} :
      List.Forall₂ Replaced items items' → Replaced (.tuple items) (.tuple items')

namespace InputType

/-- The type was made without custom types: no default is one that a custom type may be given. -/
abbrev IsStandard (t : InputType) : Prop := t.IsBuilt fun _ => False

/-! ## Acceptance without checks

The check of a type is a function, and two functions cannot be compared. For the types that the
library makes, what the check says can be read off the other fields. -/

mutual

/-- Whether a value has a type, by the kind of the type, the type inside of it and the texts that it
allows. Nothing is known of custom types. -/
def acceptsByForm : InputType → Value → Bool
  | ⟨_, kind, _, _, _, inner, allowed, _⟩, v =>
    v.isReference ||
      match kind with
      | .string => v.isText
      | .int => isWhole v
      | .bool => isTruthValue v
      | .path => isPathLike v
      | .enum => isOneOf allowed v
      | .optional => isBlankValue v || innerAcceptsByForm inner v
      | .array =>
        match v with
        | .list items => items.all (innerAcceptsByForm inner)
        | .tuple items => items.all (innerAcceptsByForm inner)
        | _ => false
      | .custom => false
termination_by structural t => t

/-- Whether a value has the type inside of a type, if there is one. -/
def innerAcceptsByForm : Option InputType → Value → Bool
  | none, _ => false
  | some t, v => acceptsByForm t v
termination_by structural inner => inner

end

/-- A reference passes for every type, since its value is not known yet. -/
@[simp]
theorem acceptsByForm_reference (t : InputType) (r : Reference) :
    t.acceptsByForm (.reference r) = true := by
  cases t
  rfl

/-- What a type accepts does not depend on its default. -/
@[simp]
theorem acceptsByForm_withDefault (t : InputType) (dflt : Value) :
    acceptsByForm { t with default := dflt } = t.acceptsByForm := by
  cases t
  rfl

/-- A type whose check has an answer accepts a value if the check passes or the value is a
reference. -/
theorem accepts_of_check {t : InputType} {v : Value} {passes : Bool} (h : t.check v = .ok passes) :
    t.accepts v = .ok (v.isReference || passes) := by
  unfold accepts
  rw [h]
  cases v.isReference <;> rfl

/-- A list of items is accepted if each of them is. The answers of a type that always has one can be
taken for a test. -/
theorem acceptsAll_eq_all {t : InputType} {f : Value → Bool} (h : ∀ v, t.accepts v = .ok (f v))
    (items : List Value) : t.acceptsAll items = .ok (items.all f) := by
  induction items with
  | nil => rfl
  | cons v rest ih =>
    rw [acceptsAll, h v, List.all_cons]
    cases f v with
    | true => exact ih
    | false => rfl

/-- The check of a standard type goes by its form. Induction on the way the type was made. -/
theorem accepts_eq_byForm {t : InputType} (h : t.IsStandard) (v : Value) :
    t.accepts v = .ok (t.acceptsByForm v) := by
  induction h generalizing v with
  | string | integer | boolean | path => exact accepts_of_check rfl
  | enumeration hmade =>
    obtain ⟨texts, rfl⟩ := enumeration_eq_ok hmade
    exact accepts_of_check rfl
  | @optional t _ ih =>
    refine accepts_of_check ?_
    show (if isBlankValue v then Except.ok true else t.accepts v) =
      .ok (isBlankValue v || t.acceptsByForm v)
    rw [ih v]
    cases isBlankValue v <;> rfl
  | array _ ih =>
    refine accepts_of_check ?_
    cases v with
    | list items | tuple items => exact acceptsAll_eq_all ih items
    | null | bool _ | int _ | float _ | text _ | mapping _ | path _ | bytes _ | object _ _
    | struct _ _ _ | noDefault | reference _ => rfl
  | withDefault _ hmade ih =>
    -- a default changes neither the check nor the form
    obtain ⟨-, rfl⟩ := withDefault_eq_ok hmade
    rw [acceptsByForm_withDefault]
    exact ih v
  | custom _ hallowed _ => exact hallowed.elim

/-! ## Equal types -/

mutual

/-- Equal types accept the same values by their form. Recursion on the types inside of the first. -/
theorem acceptsByForm_eq_of_eqv :
    ∀ (t t' : InputType), t.eqv t' = true → t.acceptsByForm = t'.acceptsByForm
  | ⟨_, kind, _, _, _, inner, allowed, _⟩, ⟨_, _, _, _, _, inner', _, _⟩, h => by
    simp only [eqv, Bool.and_eq_true, decide_eq_true_eq, beq_iff_eq] at h
    obtain ⟨⟨⟨⟨⟨⟨-, hkind⟩, -⟩, -⟩, hinner⟩, hallowed⟩, -⟩ := h
    subst hkind hallowed
    have hsame := innerAcceptsByForm_eq_of_eqv inner inner' hinner
    funext v
    simp only [acceptsByForm, hsame]
termination_by structural t => t

/-- The case of the inner type, which may be missing. The recursion goes on in
`acceptsByForm_eq_of_eqv`. -/
theorem innerAcceptsByForm_eq_of_eqv :
    ∀ (inner inner' : Option InputType), eqv.eqvInner inner inner' = true →
      innerAcceptsByForm inner = innerAcceptsByForm inner'
  | none, none, _ => rfl
  | some t, some t', h => by
    have hsame := acceptsByForm_eq_of_eqv t t' h
    funext v
    simp only [innerAcceptsByForm, hsame]
  | none, some _, h | some _, none, h => nomatch h
termination_by structural inner => inner

end

/-- **Two standard types that are equal accept the same values.** Equality does not look at the
checks, which are functions. It looks at names, elements and allowed texts, and for standard types
these say what the check is: `accepts_eq_byForm`. -/
theorem accepts_of_eqv {t t' : InputType} (h : t.IsStandard) (h' : t'.IsStandard)
    (heqv : t.eqv t' = true) (v : Value) :
    ∃ passes, t.accepts v = .ok passes ∧ t'.accepts v = .ok passes := by
  refine ⟨t.acceptsByForm v, accepts_eq_byForm h v, ?_⟩
  rw [accepts_eq_byForm h' v, acceptsByForm_eq_of_eqv t t' heqv]

/-- Lists of regions with a default, made in one step. -/
def regions : InputType := { array (ofTexts ["eu", "us"]) with default := .list [.text "eu"] }

/-- A list of names out of an enumeration is built from the standard types. -/
theorem isStandard_regions : regions.IsStandard := by
  have henum : enumeration [.text "eu", .text "us"] = .ok (ofTexts ["eu", "us"]) := rfl
  have hdefault : (array (ofTexts ["eu", "us"])).withDefault (.list [.text "eu"]) = .ok regions :=
    rfl
  exact .withDefault (.array (.enumeration henum)) hdefault

/-- The regions are given as one list, and the default is given twice. -/
theorem accepts_regions_of_eqv :
    ∃ e once twice, enumeration [.list [.text "eu", .text "us"]] = .ok e
      ∧ (array e).withDefault .null = .ok once
      ∧ once.withDefault (.list [.text "eu"]) = .ok twice
      ∧ twice.IsStandard ∧ twice.eqv regions = true
      ∧ ∃ passes, twice.accepts (.tuple [.text "us", .reference (.envVar "REGION")]) = .ok passes
          ∧ regions.accepts (.tuple [.text "us", .reference (.envVar "REGION")]) = .ok passes := by
  have he : enumeration [.list [.text "eu", .text "us"]] = .ok (ofTexts ["eu", "us"]) := rfl
  have honce : (array (ofTexts ["eu", "us"])).withDefault .null =
      .ok { array (ofTexts ["eu", "us"]) with default := .null } := rfl
  have htwice : InputType.withDefault { array (ofTexts ["eu", "us"]) with default := .null }
      (.list [.text "eu"]) = .ok regions := rfl
  have hstandard : regions.IsStandard :=
    .withDefault (.withDefault (.array (.enumeration he)) honce) htwice
  have heqv : regions.eqv regions = true := by
    simp [regions, array, ofTexts, plain, eqv, eqv.eqvInner, Value.same, Value.sameItems, sameStray]
  exact ⟨_, _, _, he, honce, htwice, hstandard, heqv,
    accepts_of_eqv hstandard isStandard_regions heqv _⟩

/-! ## References in the place of parts -/

/-- Replacing inside of items keeps a test on all items, if it keeps the test on each. This is the
step from a value to the lists in it. -/
theorem all_of_replaced {p : Value → Bool}
    (hp : ∀ {v v' : Value}, v.Replaced v' → p v = true → p v' = true) {items items' : List Value}
    (h : List.Forall₂ Value.Replaced items items') (hall : items.all p = true) :
    items'.all p = true := by
  induction h with
  | nil => rfl
  | cons hitem _ ih =>
    rw [List.all_cons, Bool.and_eq_true] at hall ⊢
    exact ⟨hp hitem hall.1, ih hall.2⟩

mutual

/-- What a type accepts by its form it still accepts after parts of it were replaced by references.
Recursion on the types inside of the type; the items of a list are replaced one by one. -/
theorem acceptsByForm_of_replaced :
    ∀ (t : InputType) {v v' : Value}, v.Replaced v' → t.acceptsByForm v = true →
      t.acceptsByForm v' = true
  | ⟨_, kind, _, _, _, inner, _, _⟩, v, v', hreplaced, h => by
    have hwhole := hreplaced
    cases hreplaced with
    | same => exact h
    | reference _ r => exact acceptsByForm_reference _ r
    | @list items items' hitems | @tuple items items' hitems =>
      -- a list is accepted by an array type, or by a type made of one
      cases kind with
      | string | int | bool | path | enum | custom => cases h
      | optional => exact innerAcceptsByForm_of_replaced inner hwhole h
      | array => exact all_of_replaced (innerAcceptsByForm_of_replaced inner) hitems h
termination_by structural t => t

/-- The case of the inner type, which may be missing. The recursion goes on in
`acceptsByForm_of_replaced`. -/
theorem innerAcceptsByForm_of_replaced :
    ∀ (inner : Option InputType) {v v' : Value}, v.Replaced v' →
      innerAcceptsByForm inner v = true → innerAcceptsByForm inner v' = true
  | none, _, _, _, h => nomatch h
  | some t, _, _, hreplaced, h => acceptsByForm_of_replaced t hreplaced h
termination_by structural inner => inner

end

/-- **A value that a standard type accepts is still accepted when any parts of it are replaced by
references**, at any depth. A reference is accepted wherever a value is looked at, also among the
items of a list and the values of a mapping. -/
theorem accepts_of_replaced {t : InputType} (h : t.IsStandard) {v v' : Value}
    (hv : t.accepts v = .ok true) (hreplaced : v.Replaced v') : t.accepts v' = .ok true := by
  rw [accepts_eq_byForm h, Except.ok.injEq] at hv ⊢
  exact acceptsByForm_of_replaced t hreplaced hv

/-- A region that is only known when the workflow runs, in the place of one that is written out. -/
theorem accepts_regions_of_replaced :
    regions.accepts (.list [.text "eu", .text "us"]) = .ok true
    ∧ (Value.list [.text "eu", .text "us"]).Replaced
        (.list [.reference (.envVar "REGION"), .text "us"])
    ∧ regions.accepts (.list [.reference (.envVar "REGION"), .text "us"]) = .ok true := by
  have hreplaced : (Value.list [.text "eu", .text "us"]).Replaced
      (.list [.reference (.envVar "REGION"), .text "us"]) :=
    .list (.cons (.reference _ _) (.cons (.same _) .nil))
  exact ⟨rfl, hreplaced, accepts_of_replaced isStandard_regions rfl hreplaced⟩

end InputType

end ShellFlow

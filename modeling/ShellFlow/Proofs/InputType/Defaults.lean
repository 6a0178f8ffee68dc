import ShellFlow.InputType.Make
import ShellFlow.Proofs.Success

/-!
# Defaults of input types

Types are made of types, so what is true of all of them is shown along the ways of making one. Here it
is that their checks answer for every value, if those of custom types do, and that a default is absent
or has the type. The latter has an exception: the default of a custom type is taken as it is given.

* **`IsBuilt`** — the types that can be made, with a condition on the defaults of custom types.
* **`IsBuilt.check_total`** — the check of such a type answers.
* **`IsBuilt.default_cases`** — its default is sound, or it is a custom type as it was made.
* **`default_of_isBuilt`** — which defaults are let through, and where.
-/

namespace ShellFlow.InputType

/-- The check answers for every value, if there is one. -/
def Check.IsTotal : Check → Prop
  | .function check => ∀ v, ∃ passes, check v = .ok passes
  | .other _ => True

/-- The type was made in one of the ways there are. `allowed` says which defaults custom types may be
given; a custom type may be marked as one of any kind. -/
inductive IsBuilt (allowed : Value → Prop) : InputType → Prop
  | string : IsBuilt allowed string
  | integer : IsBuilt allowed integer
  | boolean : IsBuilt allowed boolean
  | path : IsBuilt allowed path
  | enumeration {values : List Value} {t : InputType} :
      enumeration values = .ok t → IsBuilt allowed t
  | optional {t : InputType} : IsBuilt allowed t → IsBuilt allowed (optional t)
  | array {t : InputType} : IsBuilt allowed t → IsBuilt allowed (array t)
  | withDefault {t t' : InputType} {value : Value} :
      IsBuilt allowed t → t.withDefault value = .ok t' → IsBuilt allowed t'
  | custom {name : Label} {check : Check} {fragment : String} {dflt : Value} {kind : TypeKind}
      {t : InputType} :
      check.IsTotal → allowed dflt → custom name check fragment dflt = .ok t →
      IsBuilt allowed { t with kind := kind }

/-- There is no default, or it is absent, or it has the type. -/
def HasSoundDefault (t : InputType) : Prop :=
  t.default = .noDefault ∨ t.default = .null ∨ t.accepts t.default = .ok true

/-- The type was made as a custom type, with the default that it has. -/
def IsCustom (t : InputType) : Prop :=
  ∃ name check fragment kind made,
    custom name check fragment t.default = .ok made ∧ t = { made with kind := kind }

/-! ## Making a type -/

theorem enumeration_eq_ok {values : List Value} {t : InputType} (h : enumeration values = .ok t) :
    ∃ texts, t = ofTexts texts := by
  simp only [enumeration] at h
  split at h
  · cases h
  · split at h
    · cases h
      exact ⟨_, rfl⟩
    · cases h

/-- A default that is absent or accepted is stored. -/
theorem withDefault_of_sound {t : InputType} {value : Value}
    (h : value = .null ∨ t.accepts value = .ok true) :
    t.withDefault value = .ok { t with default := value } := by
  unfold withDefault
  split
  · rfl
  · rename_i hnull
    rw [Value.isNull_eq_true_iff] at hnull
    rw [h.resolve_left hnull]
    rfl

/-- A default that is not accepted is refused, and the failure names the default and the type. -/
theorem withDefault_of_unsound {t : InputType} {value : Value} (hvalue : value ≠ .null)
    (h : t.accepts value = .ok false) :
    t.withDefault value =
      .error (.typeDefinition
        ("default " ++ value.literal ++ " is not a valid " ++ t.name.display)) := by
  unfold withDefault
  rw [if_neg (mt Value.isNull_eq_true_iff.mp hvalue), h]
  rfl

/-- A type that was given a default accepts it, or the default is the absent value. -/
theorem withDefault_eq_ok {t t' : InputType} {value : Value} (h : t.withDefault value = .ok t') :
    (value = .null ∨ t.accepts value = .ok true) ∧ t' = { t with default := value } := by
  have hsound : value = .null ∨ t.accepts value = .ok true := by
    by_cases hnull : value = .null
    · exact Or.inl hnull
    · unfold withDefault at h
      rw [if_neg (mt Value.isNull_eq_true_iff.mp hnull)] at h
      obtain ⟨passes, hpasses, h⟩ := Success.bind_eq_ok.mp h
      cases passes with
      | true => exact Or.inr hpasses
      | false => cases h
  rw [withDefault_of_sound hsound] at h
  injection h with h
  exact ⟨hsound, h.symm⟩

/-- The default of a custom type is not looked at. -/
theorem custom_eq_map (name : Label) (check : Check) (fragment : String) (dflt : Value) :
    custom name check fragment dflt =
      (custom name check fragment .noDefault).map fun t => { t with default := dflt } := by
  unfold custom
  split
  · rfl
  · cases check with
    | function check => rfl
    | other v => cases v <;> rfl

/-- A type with a check of one's own keeps the default that it was given. Nothing asks the check
about it, which is why `default_of_isBuilt` has to set such types apart. -/
theorem custom_eq_ok {name : Label} {check : Check} {fragment : String} {dflt : Value}
    {t : InputType} (h : custom name check fragment dflt = .ok t) :
    t.default = dflt ∧ t.stray = none
    ∧ (check.IsTotal → ∀ v, ∃ passes, t.check v = .ok passes) := by
  unfold custom at h
  split at h
  · cases h
  · cases check with
    | function check =>
      cases h
      exact ⟨rfl, rfl, fun htotal => htotal⟩
    | other v =>
      cases v with
      | null =>
        cases h
        exact ⟨rfl, rfl, fun _ _ => ⟨true, rfl⟩⟩
      | bool _ | int _ | float _ | text _ | list _ | tuple _ | mapping _ | path _ | bytes _
      | object _ _ | struct _ _ _ | noDefault | reference _ => cases h

/-! ## Checks -/

/-- A type whose check always has an answer has one for references as well. -/
theorem accepts_total {t : InputType} (h : ∀ v, ∃ passes, t.check v = .ok passes) (v : Value) :
    ∃ passes, t.accepts v = .ok passes := by
  unfold accepts
  split
  · exact ⟨true, rfl⟩
  · exact h v

/-- A check that always has an answer has one for every list of items. -/
theorem acceptsAll_total {t : InputType} (h : ∀ v, ∃ passes, t.check v = .ok passes)
    (items : List Value) : ∃ passes, t.acceptsAll items = .ok passes := by
  induction items with
  | nil => exact ⟨true, rfl⟩
  | cons v rest ih =>
    obtain ⟨passes, hpasses⟩ := accepts_total h v
    obtain ⟨all, hall⟩ := ih
    rw [acceptsAll, hpasses]
    cases passes with
    | true => exact ⟨all, hall⟩
    | false => exact ⟨false, rfl⟩

variable {allowed : Value → Prop} {t : InputType}

/-- What is built is a type. One case for each way of building. -/
theorem IsBuilt.stray_eq_none (h : t.IsBuilt allowed) : t.stray = none := by
  induction h with
  | string | integer | boolean | path => rfl
  | enumeration hmade =>
    obtain ⟨texts, rfl⟩ := enumeration_eq_ok hmade
    rfl
  | optional | array => rfl
  | withDefault _ hmade ih =>
    rw [(withDefault_eq_ok hmade).2]
    exact ih
  | custom _ _ hmade => exact (custom_eq_ok hmade).2.1

/-- The check of a type has an answer for every value. Induction on the way the type was made. -/
theorem IsBuilt.check_total (h : t.IsBuilt allowed) (v : Value) :
    ∃ passes, t.check v = .ok passes := by
  induction h generalizing v with
  | string | integer | boolean | path => exact ⟨_, rfl⟩
  | enumeration hmade =>
    obtain ⟨texts, rfl⟩ := enumeration_eq_ok hmade
    exact ⟨_, rfl⟩
  -- absent values and empty texts pass without a look at the inner type
  | @optional t _ ih =>
    show ∃ passes, (if isBlankValue v then .ok true else t.accepts v) = .ok passes
    split
    · exact ⟨true, rfl⟩
    · exact accepts_total ih v
  -- only lists and tuples have items to look at
  | array _ ih =>
    cases v with
    | list items | tuple items => exact acceptsAll_total ih items
    | null | bool _ | int _ | float _ | text _ | mapping _ | path _ | bytes _ | object _ _
    | struct _ _ _ | noDefault | reference _ => exact ⟨false, rfl⟩
  | withDefault _ hmade ih =>
    rw [check_withDefault hmade]
    exact ih v
  | custom htotal _ hmade => exact (custom_eq_ok hmade).2.2 htotal v

/-! ## Defaults

The invariant of all ways to make a type. Only the custom types break it, and nothing that is made
of them afterwards mends it. -/

/-- Every way of making a type but one gives it a sound default. Induction on the way the type was
made; a type with a default is checked by the check of the type without. -/
theorem IsBuilt.default_cases (h : t.IsBuilt allowed) :
    t.HasSoundDefault ∨ allowed t.default ∧ t.IsCustom := by
  cases h with
  | string | integer | boolean | path | array => exact Or.inl (Or.inl rfl)
  | enumeration hmade =>
    obtain ⟨texts, rfl⟩ := enumeration_eq_ok hmade
    exact Or.inl (Or.inl rfl)
  | optional => exact Or.inl (Or.inr (Or.inl rfl))
  | withDefault _ hmade =>
    obtain ⟨hsound, rfl⟩ := withDefault_eq_ok hmade
    exact Or.inl (Or.inr hsound)
  | @custom name check fragment dflt kind made _ hallowed hmade =>
    obtain rfl : made.default = dflt := (custom_eq_ok hmade).1
    exact Or.inr ⟨hallowed, name, check, fragment, kind, made, hmade, rfl⟩

/-- **Where a default that is not sound can come from.** A type that can be made has one only if it
was made as a custom type: these are made with any default. Afterwards a default is refused if it is
neither absent nor of the type, with the complaint that is written out here. The first part is
`IsBuilt.default_cases`, the invariant of all ways to make a type. -/
theorem default_of_isBuilt (h : t.IsBuilt fun _ => True) :
    (¬ t.HasSoundDefault → t.IsCustom)
    ∧ (∀ name check fragment dflt, custom name check fragment dflt =
        (custom name check fragment .noDefault).map fun made => { made with default := dflt })
    ∧ ∀ value,
        (value = .null ∨ t.accepts value = .ok true)
            ∧ t.withDefault value = .ok { t with default := value }
        ∨ value ≠ .null ∧ t.accepts value = .ok false
            ∧ t.withDefault value =
                .error (.typeDefinition
                  ("default " ++ value.literal ++ " is not a valid " ++ t.name.display)) := by
  refine ⟨?_, custom_eq_map, ?_⟩
  · intro hunsound
    rcases h.default_cases with hsound | ⟨-, hcustom⟩
    · exact absurd hsound hunsound
    · exact hcustom
  · intro value
    obtain ⟨passes, hpasses⟩ := accepts_total h.check_total value
    by_cases hnull : value = .null
    · exact Or.inl ⟨Or.inl hnull, withDefault_of_sound (Or.inl hnull)⟩
    · cases passes with
      | true => exact Or.inl ⟨Or.inr hpasses, withDefault_of_sound (Or.inr hpasses)⟩
      | false => exact Or.inr ⟨hnull, hpasses, withDefault_of_unsound hnull hpasses⟩

/-! ## A type with a default of another type -/

/-- Whole numbers that are used as ports. The text that stands for the web is no such number. -/
def port : InputType where
  name := .text "port"
  kind := .custom
  check := fun v => .ok (isWhole v)
  runtimeCheck := ""
  default := .text "http"
  inner := none
  allowed := []

/-- The type for port numbers is built by a constructor, with the name of a service for its
default. -/
theorem isBuilt_port : port.IsBuilt fun _ => True := by
  have htotal : Check.IsTotal (.function fun v => .ok (isWhole v)) := fun v => ⟨isWhole v, rfl⟩
  have hmade : custom (.text "port") (.function fun v => .ok (isWhole v)) "" (.text "http") =
      .ok port := rfl
  show IsBuilt _ { port with kind := .custom }
  exact IsBuilt.custom htotal trivial hmade

/-- The type is made without complaint although it refuses its own default, which `withDefault` does
not let pass. -/
theorem default_of_port :
    port.IsBuilt (fun _ => True) ∧ ¬ port.HasSoundDefault ∧ port.IsCustom
    ∧ port.withDefault (.text "http") =
        .error (.typeDefinition "default 'http' is not a valid port") := by
  have hunsound : ¬ port.HasSoundDefault := by
    rintro (h | h | h) <;> cases h
  obtain ⟨hcustom, -, hrefused⟩ := default_of_isBuilt isBuilt_port
  refine ⟨isBuilt_port, hunsound, hcustom hunsound, ?_⟩
  rcases hrefused (.text "http") with ⟨hsound, -⟩ | ⟨-, -, hmade⟩
  · exact absurd (Or.inr hsound) hunsound
  · exact hmade

end ShellFlow.InputType

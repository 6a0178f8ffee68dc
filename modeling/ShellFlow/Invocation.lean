import ShellFlow.Step
import ShellFlow.Value.Mapping

/-!
# Calls

A call gives values to the inputs of an action or a job, in a mapping, by keyword, or both. Every
declared input gets its value from the call, or else its default. A name that is not declared is
refused before a missing one is looked for.

## Main statements

* `resolve_ok`: the resolved values have the declared names, in the order of their declaration.
-/

namespace ShellFlow

/-- Values by input name. -/
abbrev Invocation := OrderedMap String Value

namespace Invocation

/-! ## The values of a call -/

/-- The keyword by which a call gives its mapping of values. -/
def valuesKey : String := "values"

/-- The values of a call of `callee` under their names, which need not be texts yet: those of the
mapping, then those given by keyword, under `rename` of their names. The mapping may be given by
keyword too, and then it is anything that is read as one. -/
def entriesOfCall (callee : String) (rename : String → String) (values : Option Invocation)
    (keywords : Invocation) : Except Failure (List (Value × Value)) := do
  let isTaken (key : String) : Bool := key == "self" || (key == valuesKey && values.isSome)
  match keywords.keys.find? isTaken with
  | some key =>
    .error (.unsuitable (callee ++ " got multiple values for argument '" ++ key ++ "'"))
  | none =>
    let given ←
      match values with
      | some values => .ok (values.entries.map fun e => (Value.text e.1, e.2))
      | none => ((keywords.get? valuesKey).getD .null).entriesOrNone
    let named := keywords.entries.filter fun e => !(e.1 == valuesKey)
    .ok (named.foldl (fun acc e => Value.insertEntry (.text (rename e.1)) e.2 acc) given)

/-- True of a name under which nothing can be given. -/
def isUnknown (schema : Schema) (reserved : List String) : Value → Bool
  | .text key => !schema.contains key && !reserved.contains key
  | _ => true

/-- Values by name, if all names are texts. If one is none, there is an unknown input, of which the
first is reported. -/
def ofEntries (owner : Label) (schema : Schema) (reserved : List String) (kind : String)
    (entries : List (Value × Value)) : Except Failure Invocation :=
  match entries.mapM fun e => e.1.text?.map fun key => (key, e.2) with
  | some named => .ok (OrderedMap.ofList named)
  | none =>
    let unknown := (entries.map Prod.fst).find? (isUnknown schema reserved)
    .error (.unknownInput owner (unknown.getD .null) (schema.keys.map .text) (.text kind))

/-! ## The values of the inputs -/

def resolveInput (owner : Label) (kind : String) (provided : Invocation) (name : String)
    (t : InputType) : Except Failure Value :=
  match provided.get? name with
  | some value => .ok value
  | none => do
    match ← t.defaultOf with
    | some value => .ok value
    | none => .error (.missingRequiredInput owner (.text name) (.text kind) .null)

/-- The values of the declared inputs, in the order of the declaration. -/
def resolveEntries (owner : Label) (kind : String) (provided : Invocation) :
    List (String × InputType) → Except Failure (List (String × Value))
  | [] => .ok []
  | (name, t) :: rest => do
    let value ← resolveInput owner kind provided name t
    .ok ((name, value) :: (← resolveEntries owner kind provided rest))

theorem keys_resolveEntries {owner : Label} {kind : String} {provided : Invocation}
    {l : List (String × InputType)} {l' : List (String × Value)}
    (h : resolveEntries owner kind provided l = .ok l') : l'.map Prod.fst = l.map Prod.fst := by
  induction l generalizing l' with
  | nil =>
    simp only [resolveEntries] at h
    cases h
    rfl
  | cons e rest ih =>
    obtain ⟨name, t⟩ := e
    simp only [resolveEntries, bind, Except.bind] at h
    cases hv : resolveInput owner kind provided name t with
    | error e => simp [hv] at h
    | ok v =>
      cases hr : resolveEntries owner kind provided rest with
      | error e => simp [hv, hr] at h
      | ok r =>
        simp only [hv, hr] at h
        cases h
        simp [ih hr]

/-- The value of every declared input: the given one, or else the default. -/
def resolve (owner : Label) (schema : Schema) (provided : Invocation) (kind : String) :
    Except Failure Invocation :=
  match provided.keys.find? fun key => !schema.contains key with
  | some key =>
    .error (.unknownInput owner (.text key) (schema.keys.map .text) (.text kind))
  | none =>
    match h : resolveEntries owner kind provided schema.entries with
    | .ok entries => .ok ⟨entries, (keys_resolveEntries h).symm ▸ schema.nodup_keys⟩
    | .error e => .error e

theorem resolve_ok {owner : Label} {kind : String} {schema : Schema}
    {provided resolved : Invocation} (h : resolve owner schema provided kind = .ok resolved) :
    resolved.keys = schema.keys := by
  unfold resolve at h
  split at h
  · cases h
  · split at h
    · rename_i entries hentries
      cases h
      exact keys_resolveEntries hentries
    · cases h

end Invocation

end ShellFlow

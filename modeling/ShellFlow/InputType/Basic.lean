import ShellFlow.Failure
import ShellFlow.Value.Equality

/-!
# Input types

The declared type of an input of an action or a job. It checks a value twice: while compiling, by a
function on values, and in the script, by a shell fragment that reads the value from `$VALUE` and
names the variable as `$NAME`. References pass the first check, since their value is not known yet.

A default has three states: none at all (the input is required), the absent value, or a value.

Nothing keeps a definition from having something else in the place of a type. Such a stray is only
noticed when it is asked for something that it does not have.

## Main statements

* `require_of_stray_none`: what is a type has everything that a type is asked for.
-/

namespace ShellFlow

/-- The way in which a type was made. -/
inductive TypeKind where
  | string
  | int
  | bool
  | path
  | enum
  | optional
  | array
  | custom
  deriving DecidableEq, Repr

def TypeKind.text : TypeKind → String
  | .string => "string"
  | .int => "int"
  | .bool => "bool"
  | .path => "path"
  | .enum => "enum"
  | .optional => "optional"
  | .array => "array"
  | .custom => "custom"

/-- Something that stands in the place of a type and is none. -/
structure Stray where
  kindName : String
  /-- What it has nevertheless of that for which types are asked. -/
  parts : List (String × Value)

/-- A type of inputs. -/
structure InputType where
  name : Label
  kind : TypeKind
  /-- Whether a value that is no reference has the type. -/
  check : Value → Except Failure Bool
  /-- The shell fragment that checks the value in the script, empty if there is nothing to check. -/
  runtimeCheck : String
  /-- The value of an input that is not given. -/
  default : Value
  /-- The type that an optional or array type is made of. -/
  inner : Option InputType
  /-- The texts that an enumeration allows. -/
  allowed : List String
  /-- What it really is, if it is no type. -/
  stray : Option Stray := none

namespace InputType

/-- Refuses a stray that does not have a part. -/
def require (t : InputType) (part : String) : Except Failure Unit :=
  match t.stray with
  | none => .ok ()
  | some s =>
    if s.parts.any fun p => p.1 == part then .ok ()
    else .error (.missingOperation s.kindName part)

/-- What a stray has under the name of a part. -/
def strayPart? (t : InputType) (part : String) : Option Value :=
  t.stray.bind fun s => s.parts.lookup part

/-- Refuses a stray that has no fragment for the script. -/
def requireFragment (t : InputType) : Except Failure Unit := do
  t.require "runtime_validate"
  match t.strayPart? "runtime_validate" with
  | none | some (.text _) | some (.bytes _) => .ok ()
  | some v => if v.isTruthy then .error (.missingOperation v.kindName "rstrip") else .ok ()

/-- Whether a value passes the check made while compiling. -/
def accepts (t : InputType) (v : Value) : Except Failure Bool :=
  if v.isReference then .ok true else t.check v

/-- True if an input of this type may be left out. -/
def hasDefault (t : InputType) : Bool := !t.default.isNoDefault

/-- The value of an input that is not given, if there is one. -/
def defaultOf (t : InputType) : Except Failure (Option Value) := do
  t.require "default"
  .ok (if t.hasDefault then some t.default else none)

/-- The name of what must be a type. -/
def nameOf (t : InputType) : Except Failure Label := do
  t.require "name"
  .ok t.name

/-- The text of a type: its name, which must be one. -/
def text (t : InputType) : Except Failure String :=
  match t.name with
  | .text s => .ok s
  | v => .error (.unsuitable ("__str__ returned non-string (type " ++ v.kindName ++ ")"))

def sameStray : Option Stray → Option Stray → Bool
  | none, none => true
  | some a, some b => a.kindName == b.kindName && Value.sameFields a.parts b.parts
  | _, _ => false

/-- Equality of everything but the check function. -/
def eqv : InputType → InputType → Bool
  | ⟨name, kind, _, runtime, dflt, inner, allowed, stray⟩,
    ⟨name', kind', _, runtime', dflt', inner', allowed', stray'⟩ =>
    name.same name' && decide (kind = kind') && runtime == runtime' && dflt.same dflt' &&
      eqvInner inner inner' && allowed == allowed' && sameStray stray stray'
where
  /-- Equality of the types inside of two types. -/
  eqvInner : Option InputType → Option InputType → Bool
    | none, none => true
    | some t, some t' => eqv t t'
    | _, _ => false

theorem require_of_stray_none {t : InputType} (h : t.stray = none) (part : String) :
    t.require part = .ok () := by
  simp [require, h]

theorem defaultOf_of_stray_none {t : InputType} (h : t.stray = none) :
    t.defaultOf = .ok (if t.hasDefault then some t.default else none) := by
  simp only [defaultOf, require_of_stray_none h]
  rfl

end InputType

end ShellFlow

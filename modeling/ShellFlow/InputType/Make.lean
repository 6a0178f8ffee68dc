import ShellFlow.InputType.Basic
import ShellFlow.Shell.Quote
import ShellFlow.Text.Blank
import ShellFlow.Text.Lines

/-!
# Making input types

The four types that need nothing, and the ways to make new ones: enumerations, optional types,
arrays, types with a default, and types with a check of one's own. Something that is no type can be
put in the place of one.

## Main statements

* `check_withDefault`: giving a type a default leaves its check as it is.
-/

namespace ShellFlow.InputType

/-! ## Types that need nothing -/

/-- A type without default, inner type or list of texts. -/
def plain (name : String) (kind : TypeKind) (runtimeCheck : String) (check : Value → Bool) :
    InputType where
  name := .text name
  kind := kind
  check := fun v => .ok (check v)
  runtimeCheck := runtimeCheck
  default := .noDefault
  inner := none
  allowed := []

/-- A fragment that stops the script with a message when a value that is not empty fails a test. -/
def rejectUnless (test message : String) : String :=
  Text.joinLines
    ["if [ -n \"$VALUE\" ] && " ++ test ++ "; then",
     "  echo \"Error: $NAME " ++ message ++ "$VALUE\" >&2",
     "  exit 1",
     "fi",
     ""]

/-- Texts. A script has nothing but texts, so it has nothing to check. -/
def string : InputType := plain "string" .string "" Value.isText

/-- True of a whole number; the truth values are none. -/
def isWhole : Value → Bool
  | .int _ => true
  | _ => false

/-- Whole numbers. -/
def integer : InputType :=
  plain "int" .int
    (rejectUnless "! [[ \"$VALUE\" =~ ^-?[0-9]+$ ]]" "must be an integer, got: ") isWhole

/-- True of a truth value. -/
def isTruthValue : Value → Bool
  | .bool _ => true
  | _ => false

/-- Truth values. -/
def boolean : InputType :=
  plain "bool" .bool
    (rejectUnless "! [[ \"$VALUE\" =~ ^(true|false|0|1)$ ]]"
      "must be a boolean (true/false), got: ")
    isTruthValue

/-- True of a path or the text of one. -/
def isPathLike : Value → Bool
  | .text _ => true
  | .path _ => true
  | _ => false

/-- Paths, given as such or as texts. -/
def path : InputType :=
  plain "path" .path (rejectUnless "[ ! -e \"$VALUE\" ]" "path does not exist: ") isPathLike

/-! ## Enumerations -/

/-- The fragment that checks for one of the allowed texts. -/
def enumCheck (allowed : List String) : String :=
  Text.joinLines
    ["if [ -n \"$VALUE\" ]; then",
     "  case \"$VALUE\" in",
     "    " ++ "|".intercalate (allowed.map Shell.quote) ++ ") ;;",
     "    *)",
     "      echo \"Error: $NAME must be one of: " ++ ", ".intercalate allowed
       ++ ". Got: $VALUE\" >&2",
     "      exit 1",
     "      ;;",
     "  esac",
     "fi",
     ""]

/-- True of an allowed text. -/
def isOneOf (allowed : List String) : Value → Bool
  | .text s => allowed.contains s
  | _ => false

def ofTexts (allowed : List String) : InputType :=
  { plain "enum" .enum (enumCheck allowed) (isOneOf allowed) with allowed := allowed }

/-- The texts of a list of values, if all of them are texts. -/
def allTexts? : List Value → Option (List String)
  | [] => some []
  | .text s :: rest => (allTexts? rest).map (s :: ·)
  | _ :: _ => none

/-- The values given to an enumeration; a single list or tuple stands for its items. -/
def enumArguments : List Value → List Value
  | [.list items] => items
  | [.tuple items] => items
  | values => values

/-- The enumeration of the given values, which must be texts, and at least one. -/
def enumeration (values : List Value) : Except Failure InputType :=
  let values := enumArguments values
  if values.isEmpty then .error (.typeDefinition "enum() needs at least one allowed value")
  else
    match allTexts? values with
    | some texts => .ok (ofTexts texts)
    | none =>
      .error (.typeDefinition
        ("enum() values must be strings, got " ++ (Value.list values).literal))

/-! ## Types made of types -/

/-- What is given where a type is expected: a type, or something else of which only the kind
matters. -/
inductive Argument where
  | type (t : InputType)
  | other (kindName : String)

/-- The type that was given to `place`. -/
def Argument.require (place : String) : Argument → Except Failure InputType
  | .type t => .ok t
  | .other kindName =>
    .error (.typeDefinition (place ++ " expects a TypeDescriptor, got " ++ kindName))

/-- The fragment of a type, run only for a value that is not empty. -/
def optionalCheck (runtimeCheck : String) : String :=
  if runtimeCheck.isEmpty then ""
  else
    Text.joinLines
      (["if [ -n \"$VALUE\" ]; then"]
        ++ Text.indentLines "  " (Text.splitNewlines (Text.stripNewlines runtimeCheck))
        ++ ["fi", ""])

/-- True of the absent value and the empty text. -/
def isBlankValue : Value → Bool
  | .null => true
  | .text s => s.isEmpty
  | _ => false

/-- What a type accepts, the absent value and the empty text. Such an input may be left out. -/
def optional (t : InputType) : InputType where
  name := .text ("optional<" ++ t.name.display ++ ">")
  kind := .optional
  check := fun v => if isBlankValue v then .ok true else t.accepts v
  runtimeCheck := optionalCheck t.runtimeCheck
  default := .null
  inner := some t
  allowed := []

/-- Whether a type accepts all values of a list; the values after the first bad one are not looked
at. -/
def acceptsAll (t : InputType) : List Value → Except Failure Bool
  | [] => .ok true
  | v :: rest => do if ← t.accepts v then acceptsAll t rest else .ok false

/-- Lists and tuples of accepted values. -/
def array (t : InputType) : InputType where
  name := .text ("array<" ++ t.name.display ++ ">")
  kind := .array
  check := fun
    | .list items => t.acceptsAll items
    | .tuple items => t.acceptsAll items
    | _ => .ok false
  runtimeCheck := ""
  default := .noDefault
  inner := some t
  allowed := []

/-- The type with a default, which must be absent or a value of the type. -/
def withDefault (t : InputType) (value : Value) : Except Failure InputType :=
  if value.isNull then .ok { t with default := value }
  else do
    if ← t.accepts value then .ok { t with default := value }
    else
      .error (.typeDefinition ("default " ++ value.literal ++ " is not a valid " ++ t.name.display))

/-! ## Types with a check of one's own -/

/-- What is given as the check of a custom type. -/
inductive Check where
  | function (check : Value → Except Failure Bool)
  | other (v : Value)

/-- A type with a name, a check and a fragment of one's own. Without a check
it accepts everything. -/
def custom (name : Label) (check : Check) (runtimeCheck : String) (dflt : Value) :
    Except Failure InputType :=
  if !name.isTruthy then .error (.typeDefinition "type name cannot be empty")
  else
    let make (check : Value → Except Failure Bool) : InputType :=
      { name := name, kind := .custom, check := check, runtimeCheck := runtimeCheck,
        default := dflt, inner := none, allowed := [] }
    match check with
    | .function check => .ok (make check)
    | .other .null => .ok (make fun _ => .ok true)
    | .other _ =>
      .error (.typeDefinition ("type '" ++ name.display ++ "': eval_validate must be callable"))

/-! ## What is no type -/

/-- The kind that something has which is no type. -/
def strayKind : Option Value → TypeKind
  | some (.text "int") => .int
  | some (.text "bool") => .bool
  | _ => .custom

/-- The fragment for the script of something that is no type. -/
def strayFragment : Option Value → String
  | some (.text s) => s
  | some (.bytes s) => if s.isEmpty then "" else (Value.bytes (Text.stripEnd s)).display
  | _ => ""

/-- A stray in the place of a type; `shown` is what it is, as far as it is a value. -/
def ofStray (s : Stray) (shown : Value) : InputType where
  name := (s.parts.lookup "name").getD shown
  kind := strayKind (s.parts.lookup "kind")
  check := fun _ =>
    match s.parts.lookup "eval_validate" with
    | some v => .error (.unsuitable ("'" ++ v.kindName ++ "' object is not callable"))
    | none => .error (.missingOperation s.kindName "eval_validate")
  runtimeCheck := strayFragment (s.parts.lookup "runtime_validate")
  default := (s.parts.lookup "default").getD .noDefault
  inner := none
  allowed := []
  stray := some s

theorem check_withDefault {t t' : InputType} {value : Value} (h : t.withDefault value = .ok t') :
    t'.check = t.check := by
  unfold withDefault at h
  split at h
  · cases h
    rfl
  · cases hacc : t.accepts value with
    | error e => simp [hacc, bind, Except.bind] at h
    | ok b =>
      cases b with
      | true =>
        simp only [hacc, bind, Except.bind, if_true] at h
        cases h
        rfl
      | false => simp [hacc, bind, Except.bind] at h

end ShellFlow.InputType

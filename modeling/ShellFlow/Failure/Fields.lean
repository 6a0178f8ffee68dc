import ShellFlow.Value.Items
import ShellFlow.Value.Equality

/-!
# Failures as records

The failures that belong to compiling, as named fields, for those who read them as data and not as
text. A failed validation has its issues besides.

## Main statements

* `ofFields_fields`: a failure is read back from its fields and issues.
-/

namespace ShellFlow.Failure

/-! ## Taking a failure apart -/

/-- The fields of a failure, none if it is no record. -/
def fields : Failure → List (String × Value)
  | .missingRequiredInput owner input kind i =>
    [("owner", owner), ("input", input), ("kind", kind), ("step_index", i)]
  | .unknownInput owner input known kind =>
    [("owner", owner), ("input", input), ("known", .list known), ("kind", kind)]
  | .invalidName owner name what => [("owner", owner), ("name", name), ("what", what)]
  | .missingExecutor job => [("job", job)]
  | .unknownReferenceKind value => [("value", value)]
  | .unsupportedValueKind value => [("value", value)]
  | .typeMismatch job i action input expected =>
    [("job", job), ("step_index", i), ("action", action), ("input", input),
     ("expected", expected)]
  | .unknownStepReference job step target input i =>
    [("job", job), ("step", step), ("target", target), ("input", input), ("step_index", i)]
  | .generatedNameCollision job step stem indices =>
    [("job", job), ("step", step), ("variable", stem), ("indices", .list indices)]
  | .validation title job _ => [("title", title), ("job", job)]
  | .duplicateArtifact names => [("names", names)]
  | .badExtension extension text => [("extension", extension), ("message", text)]
  | _ => []

def issues? : Failure → Option (List Failure)
  | .validation _ _ issues => some issues
  | _ => none

mutual

/-- True of two failures of one title with the same fields; a failure that is no record is like no
other. -/
def same : Failure → Failure → Bool
  | .validation title job issues, .validation title' job' issues' =>
    Value.same title title' && Value.same job job' && sameIssues issues issues'
  | a, b => a.title == b.title && !a.fields.isEmpty && Value.sameFields a.fields b.fields
termination_by structural a => a

/-- True of two lists of the same failures. -/
def sameIssues : List Failure → List Failure → Bool
  | [], [] => true
  | a :: as, b :: bs => same a b && sameIssues as bs
  | _, _ => false
termination_by structural as => as

end

/-! ## Putting a failure together -/

/-- The fields that the failures of a title have, in order, each with the value for which it may be
left out. -/
def fieldsOf : String → List (String × Option Value)
  | "MissingRequiredInput" =>
    [("owner", none), ("input", none), ("kind", some (.text "action")), ("step_index", some .null)]
  | "UnknownInput" =>
    [("owner", none), ("input", none), ("known", some (.list [])),
     ("kind", some (.text "action"))]
  | "InvalidName" => [("owner", none), ("name", none), ("what", some (.text "input"))]
  | "MissingExecutor" => [("job", none)]
  | "UnknownReferenceKind" | "UnsupportedValueKind" => [("value", none)]
  | "TypeMismatch" =>
    [("job", none), ("step_index", none), ("action", none), ("input", none), ("expected", none)]
  | "UnknownStepReference" =>
    [("job", none), ("step", none), ("target", none), ("input", some .null),
     ("step_index", some .null)]
  | "GeneratedNameCollision" =>
    [("job", none), ("step", none), ("variable", none), ("indices", some (.list []))]
  | "ValidationError" => [("title", none), ("job", none)]
  | "DuplicateArtifact" => [("names", none)]
  | "ExtensionError" => [("extension", none), ("message", none)]
  | _ => []

/-- The failure of a title with the values of its fields in order; `message` is the text of a
failure without fields. -/
def ofValues? (title message : String) (issues : List Failure) : List Value → Option Failure
  | [a, b, c, d, e] =>
    match title with
    | "TypeMismatch" => some (.typeMismatch a b c d e)
    | "UnknownStepReference" => some (.unknownStepReference a b c d e)
    | _ => none
  | [a, b, c, d] =>
    match title, c, d with
    | "MissingRequiredInput", c, d => some (.missingRequiredInput a b c d)
    | "UnknownInput", .list known, d => some (.unknownInput a b known d)
    | "GeneratedNameCollision", c, .list indices => some (.generatedNameCollision a b c indices)
    | _, _, _ => none
  | [a, b, c] => if title = "InvalidName" then some (.invalidName a b c) else none
  | [a, b] =>
    match title with
    | "ValidationError" => some (.validation a b issues)
    | "ExtensionError" => some (.badExtension a b)
    | _ => none
  | [a] =>
    match title with
    | "MissingExecutor" => some (.missingExecutor a)
    | "UnknownReferenceKind" => some (.unknownReferenceKind a)
    | "UnsupportedValueKind" => some (.unsupportedValueKind a)
    | "DuplicateArtifact" => some (.duplicateArtifact a)
    | _ => none
  | [] =>
    match title with
    | "TypeDefinitionError" => some (.typeDefinition message)
    | "CompileError" => some (.compilation message)
    | _ => none
  | _ => none

/-- A field, as a list if it must be one. -/
def listed : String × Value → Except Failure (String × Value)
  | ("known", v) => do .ok ("known", .list (← v.items))
  | ("indices", v) => do .ok ("indices", .list (← v.items))
  | f => .ok f

/-- The names of missing fields, as they are enumerated. -/
def enumerated : List String → String
  | [] => ""
  | [a] => a
  | [a, b] => a ++ " and " ++ b
  | names => ", ".intercalate names.dropLast ++ ", and " ++ names.getLast?.getD ""

/-- The complaint about a field that the failures of a title do not have. -/
def unexpectedField (title name : String) : String :=
  if (fieldsOf title).isEmpty then title ++ "() takes no keyword arguments"
  else title ++ ".__init__() got an unexpected keyword argument '" ++ name ++ "'"

/-- The complaint about fields that the failures of a title must have. -/
def missingFields (title : String) (names : List String) : String :=
  title ++ ".__init__() missing " ++ toString names.length ++ " required positional argument"
    ++ (if names.length = 1 then "" else "s") ++ ": "
    ++ enumerated (names.map fun name => "'" ++ name ++ "'")

/-- The name of a field that is given and is none of those expected. -/
def stray? (expected : List (String × Option Value)) (fields : List (String × Value)) :
    Option String :=
  (fields.find? fun f => !expected.any fun e => e.1 == f.1).map Prod.fst

/-- The names of the fields that are expected and not given. -/
def absent (expected : List (String × Option Value)) (fields : List (String × Value)) :
    List String :=
  (expected.filter fun e => ((fields.lookup e.1).or e.2).isNone).map Prod.fst

/-- The failure of a title with some fields and issues, if no field is missing that it must have
and none is there that it does not have. -/
def ofFields (title message : String) (fields : List (String × Value)) (issues : List Failure) :
    Except Failure Failure := do
  let fields ← fields.mapM listed
  let expected := fieldsOf title
  match stray? expected fields, absent expected fields with
  | some name, _ => .error (.unsuitable (unexpectedField title name))
  | none, [] =>
    let values := expected.filterMap fun e => (fields.lookup e.1).or e.2
    match ofValues? title message issues values with
    | some failure => .ok failure
    | none => .error (.unsuitable ("no failure has the title " ++ title))
  | none, names => .error (.unsuitable (missingFields title names))

theorem ofFields_fields {failure : Failure} (h : failure.fields ≠ []) :
    ofFields failure.title failure.message failure.fields (failure.issues?.getD []) =
      .ok failure := by
  cases failure
  case missingRequiredInput | unknownInput | invalidName | missingExecutor | unknownReferenceKind
    | unsupportedValueKind | typeMismatch | unknownStepReference | generatedNameCollision
    | validation | duplicateArtifact | badExtension => rfl
  all_goals exact absurd rfl h

end ShellFlow.Failure

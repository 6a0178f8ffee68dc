import ShellFlow.Failure
import ShellFlow.Text.Letter

/-!
# Instances of structures

An instance of a structure is made of its fields. Their names are identifiers, which may have
letters of all scripts, and no reserved words, and no two are the same.
-/

namespace ShellFlow.Value

/-- The identifiers that name nothing. -/
def reservedWords : List String :=
  ["False", "None", "True", "and", "as", "assert", "async", "await", "break", "class", "continue",
   "def", "del", "elif", "else", "except", "finally", "for", "from", "global", "if", "import", "in",
   "is", "lambda", "nonlocal", "not", "or", "pass", "raise", "return", "try", "while", "with",
   "yield"]

/-- True of a text that is an identifier. -/
def isFieldName (s : String) : Bool :=
  match s.toList with
  | [] => false
  | c :: rest => Text.isLetter c && rest.all Text.isLetterPart

/-- Refuses the first name that is none for a field after those before it. -/
def checkFieldNames (before : List String) : List String → Except Failure Unit
  | [] => .ok ()
  | name :: rest =>
    if !isFieldName name then
      .error (.unsuitable ("Field names must be valid identifiers: " ++ Text.quoted name))
    else if reservedWords.contains name then
      .error (.unsuitable ("Field names must not be keywords: " ++ Text.quoted name))
    else if before.contains name then
      .error (.unsuitable ("Field name duplicated: " ++ Text.quoted name))
    else checkFieldNames (name :: before) rest

/-- An instance of the structure of a name. -/
def ofFields (mark : Nat) (name : String) (fields : List (String × Value)) :
    Except Failure Value := do
  checkFieldNames [] (fields.map Prod.fst)
  if name.toList.contains '\x00' then
    .error (.invalidArgument "type name must not contain null characters")
  else .ok (.struct mark name fields)

end ShellFlow.Value

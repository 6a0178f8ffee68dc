import ShellFlow.Decimal.Layout
import ShellFlow.Text.Quoted
import ShellFlow.Value.Basic

/-!
# Values in messages

Two ways to show a value. `literal` quotes texts and is used inside of containers; `display` shows a
text as it is, a path by its text, and everything else like `literal`.
-/

namespace ShellFlow.Value

/-- Floating point numbers in messages and scripts: an exponent below 10⁻⁴ and from 10¹⁶ on, with at
least two digits. -/
def floatLayout : Decimal.Layout where
  positionalFrom := -4
  positionalUntil := 16
  exponentWidth := 2
  nan := "nan"
  infinity := "inf"
  negativeInfinity := "-inf"

/-- The texts between a bracket and its partner, separated by commas. -/
def bracketed (opening closing : String) (parts : List String) : String :=
  opening ++ ", ".intercalate parts ++ closing

/-- The fields of a structure instance after its name. -/
def structText (name : String) (fields : List (String × String)) : String :=
  bracketed (name ++ "(") ")" (fields.map fun f => f.1 ++ "=" ++ f.2)

mutual

/-- The value with its texts quoted. -/
def literal : Value → String
  | .null => "None"
  | .bool true => "True"
  | .bool false => "False"
  | .int i => toString i
  | .float x => floatLayout.write x
  | .text s => Text.quoted s
  | .list items => bracketed "[" "]" (literalItems items)
  | .tuple [item] => "(" ++ literal item ++ ",)"
  | .tuple items => bracketed "(" ")" (literalItems items)
  | .mapping entries => bracketed "\x7b" "\x7d" (literalEntries entries)
  | .path s => "PurePosixPath(" ++ Text.quoted s ++ ")"
  | .bytes s => "b" ++ Text.quoted s
  | .object _ shown => shown
  | .struct _ name fields => structText name (literalFields fields)
  | .noDefault => "NO_DEFAULT"
  | .reference r => structText r.kindName (r.fields.map fun f => (f.1, Text.quoted f.2))
termination_by structural v => v

def literalItems : List Value → List String
  | [] => []
  | item :: rest => literal item :: literalItems rest
termination_by structural items => items

/-- The entries of a mapping, each as key, colon and value. -/
def literalEntries : List (Value × Value) → List String
  | [] => []
  | (key, value) :: rest => (literal key ++ ": " ++ literal value) :: literalEntries rest
termination_by structural entries => entries

/-- The fields of a structure instance, each value as a literal. -/
def literalFields : List (String × Value) → List (String × String)
  | [] => []
  | (name, value) :: rest => (name, literal value) :: literalFields rest
termination_by structural fields => fields

end

def display : Value → String
  | .text s => s
  | .path s => s
  | v => literal v

end ShellFlow.Value

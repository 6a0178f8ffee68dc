import ShellFlow.Decimal.Layout
import ShellFlow.OrderedMap

/-!
# JSON

Plain data, and its text. Text can be compact or indented; an empty array or object stands on one
line in both. Characters outside of ASCII are written as they are, and numbers with their shortest
digits; a number that is not finite is written as null.
-/

namespace ShellFlow

/-- Plain data; the fields of an object are in order. -/
inductive Json where
  | null
  | bool (b : Bool)
  | int (i : Int)
  | float (x : Binary64)
  | text (s : String)
  | array (items : List Json)
  | object (fields : List (String × Json))
  deriving Inhabited

namespace Json

/-- Numbers in JSON text: an exponent below 10⁻⁵ and from 10¹⁶ on, with as many digits
as it needs. -/
def floatLayout : Decimal.Layout where
  positionalFrom := -5
  positionalUntil := 16
  exponentWidth := 1
  nan := "null"
  infinity := "null"
  negativeInfinity := "null"

/-- A character inside a JSON text literal. -/
def escapeChar (c : Char) : List Char :=
  if c = '"' || c = '\\' then ['\\', c]
  else if c = '\x08' then ['\\', 'b']
  else if c = '\t' then ['\\', 't']
  else if c = '\n' then ['\\', 'n']
  else if c = '\x0c' then ['\\', 'f']
  else if c = '\r' then ['\\', 'r']
  else if c.toNat < 32 then
    '\\' :: 'u' :: '0' :: '0' :: [Nat.digitChar (c.toNat / 16), Nat.digitChar (c.toNat % 16)]
  else [c]

/-- A text as a JSON literal. -/
def quoted (s : String) : String :=
  String.ofList ('"' :: (s.toList.flatMap escapeChar ++ ['"']))

/-- How the parts of an array or object are set apart. -/
structure Style where
  /-- What stands before a part at the given depth. -/
  lineBreak : Nat → String
  /-- What stands between a key and its value. -/
  colon : String

def Style.compact : Style := ⟨fun _ => "", ":"⟩

/-- Every part on a line of its own, indented by `width` blanks for each level. -/
def Style.indented (width : Nat) : Style :=
  ⟨fun depth => String.ofList ('\n' :: List.replicate (width * depth) ' '), ": "⟩

/-- The style for a number of blanks; none means compact. -/
def Style.ofWidth : Option Nat → Style
  | none => compact
  | some width => indented width

/-- The parts between brackets, each on its own line if the style has lines. -/
def enclose (style : Style) (depth : Nat) (opening closing : String) (parts : List String) :
    String :=
  if parts.isEmpty then opening ++ closing
  else
    opening ++ ",".intercalate (parts.map (style.lineBreak (depth + 1) ++ ·))
      ++ style.lineBreak depth ++ closing

mutual

/-- The text of plain data at a depth. -/
def renderAt (style : Style) (depth : Nat) : Json → String
  | .null => "null"
  | .bool true => "true"
  | .bool false => "false"
  | .int i => toString i
  | .float x => floatLayout.write x
  | .text s => quoted s
  | .array items => enclose style depth "[" "]" (renderItems style (depth + 1) items)
  | .object fields => enclose style depth "\x7b" "\x7d" (renderFields style (depth + 1) fields)
termination_by structural j => j

/-- The texts of the items of an array. -/
def renderItems (style : Style) (depth : Nat) : List Json → List String
  | [] => []
  | item :: rest => renderAt style depth item :: renderItems style depth rest
termination_by structural items => items

/-- The texts of the fields of an object. -/
def renderFields (style : Style) (depth : Nat) : List (String × Json) → List String
  | [] => []
  | (key, value) :: rest =>
    (quoted key ++ style.colon ++ renderAt style depth value) :: renderFields style depth rest
termination_by structural fields => fields

end

/-- The text of plain data, indented by a number of blanks or compact. -/
def render (indent : Option Nat) (j : Json) : String := renderAt (Style.ofWidth indent) 0 j

/-- The depth up to which plain data have a text where they are part of a record. -/
def depthLimit : Nat := 255

mutual

/-- The number of values from plain data to the innermost one in it, itself included. -/
def depth : Json → Nat
  | .array items => 1 + itemsDepth items
  | .object fields => 1 + fieldsDepth fields
  | _ => 1
termination_by structural j => j

def itemsDepth : List Json → Nat
  | [] => 0
  | item :: rest => max (depth item) (itemsDepth rest)
termination_by structural items => items

/-- The greatest depth of the values of some fields. -/
def fieldsDepth : List (String × Json) → Nat
  | [] => 0
  | (_, value) :: rest => max (depth value) (fieldsDepth rest)
termination_by structural fields => fields

end

def ofMap (m : OrderedMap String Json) : Json := .object m.entries

def ofTextMap (m : OrderedMap String String) : Json := ofMap (m.map fun _ s => .text s)

def ofTexts (texts : List String) : Json := .array (texts.map .text)

def ofText? : Option String → Json
  | some s => .text s
  | none => .null

end Json

end ShellFlow

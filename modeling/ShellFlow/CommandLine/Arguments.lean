import ShellFlow.Text.Lines

/-!
# Arguments

Reading the words of a command line against a list of known options. An option has a long name and
may have a letter; a value follows it in the same word or as the next word, whatever that looks
like. After a word of two dashes no word is an option.
-/

namespace ShellFlow

/-- What a command line cannot be understood for. -/
inductive UsageError where
  | unknownOption (option : String)
  | missingValue (option : String)
  | unexpectedValue (option : String)
  | invalidChoice (option value : String) (choices : List String)
  /-- A file is expected where a directory is. -/
  | directory (option path : String)
  | missingCommand
  | unknownCommand (name : String)
  | unexpectedArgument (argument : String)
  deriving DecidableEq, Repr

namespace UsageError

def message : UsageError → String
  | .unknownOption option => "No such option: " ++ option
  | .missingValue option => "Option '" ++ option ++ "' requires an argument."
  | .unexpectedValue option => "Option '" ++ option ++ "' does not take a value."
  | .invalidChoice option value choices =>
    "Invalid value for '" ++ option ++ "': '" ++ value ++ "' is not one of "
      ++ ", ".intercalate (choices.map fun choice => "'" ++ choice ++ "'") ++ "."
  | .directory option path =>
    "Invalid value for '" ++ option ++ "': File '" ++ path ++ "' is a directory."
  | .missingCommand => "Missing command."
  | .unknownCommand name => "No such command '" ++ name ++ "'."
  | .unexpectedArgument argument => "Got unexpected extra argument (" ++ argument ++ ")"

end UsageError

/-- An option that a command knows. -/
structure OptionSpec where
  /-- The long name with its dashes. -/
  name : String
  letter : Option Char := none
  takesValue : Bool := true
  deriving DecidableEq, Repr

/-- The options in a command line, each with its value, and the other words. -/
structure Arguments where
  /-- The options by their long names, in the order in which they were given. -/
  options : List (String × String) := []
  words : List String := []
  deriving DecidableEq, Repr

namespace Arguments

/-- The options of one word, and the name of the last if its value is in the next word. -/
structure Reading where
  options : List (String × String)
  awaiting : Option String := none
  deriving DecidableEq, Repr

/-- Options in front of others. -/
def withOptions (options : List (String × String)) (arguments : Arguments) : Arguments :=
  { arguments with options := options ++ arguments.options }

/-- A word in front of others. -/
def withWord (word : String) (arguments : Arguments) : Arguments :=
  { arguments with words := word :: arguments.words }

/-- Reads letters, the rest of which is the value of the first that takes one. -/
def readLetters (specs : List OptionSpec) : List Char → Except UsageError Reading
  | [] => .ok { options := [] }
  | c :: rest =>
    match specs.find? fun spec => decide (spec.letter = some c) with
    | none => .error (.unknownOption (String.ofList ['-', c]))
    | some spec =>
      if spec.takesValue then
        if rest.isEmpty then .ok { options := [], awaiting := some spec.name }
        else .ok { options := [(spec.name, String.ofList rest)] }
      else
        (readLetters specs rest).map fun reading =>
          { reading with options := (spec.name, "") :: reading.options }

/-- Reads a word that looks like an option. -/
def readOption (specs : List OptionSpec) (word : String) : Except UsageError Reading :=
  let cs := word.toList
  let name := String.ofList (cs.takeWhile (· != '='))
  let value := cs.dropWhile (· != '=')
  match specs.find? fun spec => decide (spec.name = name) with
  | some spec =>
    match spec.takesValue, value with
    | true, [] => .ok { options := [], awaiting := some name }
    | true, _ :: text => .ok { options := [(name, String.ofList text)] }
    | false, [] => .ok { options := [(name, "")] }
    | false, _ :: _ => .error (.unexpectedValue name)
  | none =>
    match cs with
    | '-' :: '-' :: _ => .error (.unknownOption name)
    | _ => readLetters specs (cs.drop 1)

/-- True of a dash with something after it. -/
def looksLikeOption (word : String) : Bool :=
  match word.toList with
  | '-' :: _ :: _ => true
  | _ => false

/-- Reads words. With `mixed`, options may also come after other words. -/
def scan (specs : List OptionSpec) (mixed : Bool) : List String → Except UsageError Arguments
  | [] => .ok {}
  | word :: rest =>
    if word = "--" then .ok { words := rest }
    else if looksLikeOption word then
      match readOption specs word with
      | .error e => .error e
      | .ok { options := options, awaiting := none } =>
        (scan specs mixed rest).map (withOptions options)
      | .ok { options := options, awaiting := some name } =>
        -- the next word is the value, even if it looks like an option
        match rest with
        | [] => .error (.missingValue name)
        | value :: rest => (scan specs mixed rest).map (withOptions (options ++ [(name, value)]))
    else if mixed then (scan specs mixed rest).map (withWord word)
    else .ok { words := word :: rest }

/-- True if an option was given. -/
def has (arguments : Arguments) (name : String) : Bool :=
  arguments.options.any fun option => decide (option.1 = name)

/-- All values of an option, in order. -/
def values (arguments : Arguments) (name : String) : List String :=
  (arguments.options.filter fun option => decide (option.1 = name)).map Prod.snd

def last? (arguments : Arguments) (name : String) : Option String :=
  (arguments.values name).getLast?

/-- The last value of an option, if it is not empty. -/
def nonempty? (arguments : Arguments) (name : String) : Option String :=
  (arguments.last? name).filter fun value => !value.isEmpty

end Arguments

end ShellFlow

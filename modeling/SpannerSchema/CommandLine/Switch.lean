/-! Switches among the words of a command line. A long switch may carry its value after an equals sign, a short one
    right after its letter; else the next word is the value, whatever it looks like. Two dashes end the
    switches. -/

namespace SpannerSchema
namespace CommandLine

/-- A switch, by what it sets. -/
inductive Switch where
  | help
  | logLevel
  | described
  | keys
  | outputDirectory
  | outputFile
  | idName
  | synthesis (on : Bool)
  | terminated (on : Bool)
  | mode
  | toStdout
  | rowsFile
  | database
deriving DecidableEq, Repr

/-- Does a switch come with a value? -/
def Switch.takesValue : Switch → Bool
  | help | synthesis _ | terminated _ | toStdout => false
  | _ => true

/-- The spellings of the switches of a command. Every short switch takes a value. -/
structure Spelling where
  long : List (String × Switch)
  short : List (Char × Switch) := []

/-- What is wrong with a command line. -/
inductive UsageError where
  | unknownSwitch
  | missingValue
  | unwantedValue
  | missingArgument
  | extraArgument
  | missingSwitch
  | badFile
  | badChoice
  | unknownCommand
  | missingCommand
deriving DecidableEq, Repr

def UsageError.message : UsageError → String
  | unknownSwitch => "No such option."
  | missingValue => "Option requires an argument."
  | unwantedValue => "Option does not take a value."
  | missingArgument => "Missing argument."
  | extraArgument => "Got unexpected extra argument."
  | missingSwitch => "Missing option."
  | badFile => "File does not exist or is a directory."
  | badChoice => "Value is not one of the choices."
  | unknownCommand => "No such command."
  | missingCommand => "Missing command."

/-- The words of a command line: its switches with their values in order, and its arguments. A switch without a
value has the empty one. -/
structure Words where
  switches : List (Switch × String) := []
  arguments : List String := []
deriving DecidableEq, Repr

def Words.withSwitch (s : Switch) (value : String) (w : Words) : Words :=
  { w with switches := (s, value) :: w.switches }

def Words.withArgument (a : String) (w : Words) : Words := { w with arguments := a :: w.arguments }

/-- Is the word a switch, or a wrong spelling of one? -/
def isSwitch (word : String) : Bool := "-".toList.isPrefixOf word.toList && word != "-"

/-- A word before its first equals sign, and what follows the sign. -/
def splitValue (word : String) : String × Option String :=
  let cs := word.toList
  match cs.dropWhile (· != '=') with
  | [] => (word, none)
  | _ :: value => (String.ofList (cs.takeWhile (· != '=')), some (String.ofList value))

/-- A switch with the value that its own word gives it. -/
def readSwitch (spelling : Spelling) (word : String) : Except UsageError (Switch × Option String) :=
  let (name, value) := splitValue word
  match spelling.long.lookup name with
  | some s => if !s.takesValue && value.isSome then .error .unwantedValue else .ok (s, value)
  | none =>
    match word.toList with
    | '-' :: '-' :: _ => .error .unknownSwitch
    | '-' :: letter :: rest =>
      match spelling.short.lookup letter with
      | some s => .ok (s, if rest.isEmpty then none else some (String.ofList rest))
      | none => .error .unknownSwitch
    | _ => .error .unknownSwitch

/-- The words of a command line. If `mixed` is false, the first argument ends the switches. -/
def scan (spelling : Spelling) (mixed : Bool) : List String → Except UsageError Words
  | [] => .ok {}
  | word :: rest =>
    if word == "--" then .ok { arguments := rest }
    else if isSwitch word then
      match readSwitch spelling word with
      | .error e => .error e
      | .ok (s, some value) => (scan spelling mixed rest).map (·.withSwitch s value)
      | .ok (s, none) =>
        if s.takesValue then
          match rest with
          | [] => .error .missingValue
          | value :: rest => (scan spelling mixed rest).map (·.withSwitch s value)
        else (scan spelling mixed rest).map (·.withSwitch s "")
    else if mixed then (scan spelling mixed rest).map (·.withArgument word)
    else .ok { arguments := word :: rest }

/-- The value of a switch where it is given, the last one if it is given more than once. -/
def Words.value? (w : Words) (s : Switch) : Option String :=
  (w.switches.reverse.find? fun given => given.1 == s).map (·.2)

/-- The setting that the last of the switches of a pair makes. -/
def Words.choice? (w : Words) (pair : Bool → Switch) : Option Bool :=
  (w.switches.reverse.find? fun given => given.1 == pair true || given.1 == pair false).map
    fun given => given.1 == pair true

end CommandLine
end SpannerSchema

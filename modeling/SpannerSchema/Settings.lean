import SpannerSchema.Keys.Classification
import SpannerSchema.Settings.EnvironmentFile
import SpannerSchema.Text.Case
import SpannerSchema.Value
import SpannerSchema.Workspace.Path

/-! Settings and where they come from: values given by name, environment variables, and an environment file, in
    this order. A variable is found under the name kept for this program, or else under the plain one. -/

namespace SpannerSchema

/-- The settings of the program. -/
structure Settings where
  idName : String := "id"
  synthesis : Bool := true
  terminated : Bool := true
  mode : IndexMode := .unique
  outputDirectory : Path := { names := ["out"] }
  logLevel : String := "WARNING"
deriving DecidableEq, Repr

/-- What is wrong with the value of a setting. -/
inductive SettingProblem where
  | notText
  | notUnicode
  | notTruthWord
  | notTruth
  | notMode
  | notPath
deriving DecidableEq, Repr

/-- A setting, by the name under which its value was given, with what is wrong with the value. -/
structure SettingIssue where
  place : String
  problem : SettingProblem
deriving DecidableEq, Repr

/-- The names of a setting: the one kept for this program, and the plain one. -/
structure SettingNames where
  own : String
  plain : String
deriving DecidableEq, Repr

namespace Settings

/-! ### Names -/

def idNames : SettingNames := ⟨"SPANNER_DDL_DEFAULT_ID", "default_id_name"⟩

def synthesisNames : SettingNames := ⟨"SPANNER_DDL_ASSIGN_PK", "allow_primary_key_synthesis"⟩

def terminatedNames : SettingNames := ⟨"SPANNER_DDL_SEMICOLON", "assign_terminator"⟩

def modeNames : SettingNames := ⟨"SPANNER_DDL_MUL_WITHOUT_REFERENCE", "mul_without_reference"⟩

def outputDirectoryNames : SettingNames := ⟨"SPANNER_DDL_OUTPUT_DIR", "output_dir"⟩

def logLevelNames : SettingNames := ⟨"SPANNER_DDL_LOG_LEVEL", "log_level"⟩

/-- The names of all settings, in their order. -/
def allNames : List SettingNames :=
  [idNames, synthesisNames, terminatedNames, modeNames, outputDirectoryNames, logLevelNames]

/-! ### Reading values -/

def readText : Value → Except SettingProblem String
  | .text s => .ok s
  | .bytes bs =>
    match String.fromUTF8? ⟨bs.toArray⟩ with
    | some s => .ok s
    | none => .error .notUnicode
  | _ => .error .notText

/-- The truth value that a word stands for, in any case. -/
def truthWord? (s : String) : Option Bool :=
  let word := String.ofList (s.toList.map Char.toLower)
  if ["0", "off", "f", "false", "n", "no"].contains word then some false
  else if ["1", "on", "t", "true", "y", "yes"].contains word then some true
  else none

/-- The first number that does not fit into 64 bits with a sign. -/
def wordBound : Int := Nat.pow 2 63

/-- The truth value of a whole number: only zero and one have one. A number below `least`, or of more than 64 bits, is
not even taken for a truth value. -/
def truthOfInt (least n : Int) : Except SettingProblem Bool :=
  if n == 0 then .ok false
  else if n == 1 then .ok true
  else if least ≤ n && n < wordBound then .error .notTruthWord
  else .error .notTruth

/-- The whole number that a binary number is. -/
def wholeOf? : Binary64 → Option Int
  | .finite negative m e =>
    let size := m * Nat.pow 2 e.toNat
    let parts := Nat.pow 2 (-e).toNat
    if size % parts == 0 then some (if negative then -(size / parts : Nat) else (size / parts : Nat)) else none
  | _ => none

/-- The truth value of a binary number. The least number of 64 bits is not among those that count as whole. -/
def truthOfFloat (x : Binary64) : Except SettingProblem Bool :=
  match wholeOf? x with
  | some n => truthOfInt (1 - wordBound) n
  | none => .error .notTruth

def readTruth : Value → Except SettingProblem Bool
  | .bool b => .ok b
  | .text s =>
    match truthWord? s with
    | some b => .ok b
    | none => .error .notTruthWord
  | .bytes bs =>
    match (String.fromUTF8? ⟨bs.toArray⟩).bind truthWord? with
    | some b => .ok b
    | none => .error .notTruthWord
  | .int n => truthOfInt (-wordBound) n
  | .float x => truthOfFloat x
  | .decimal d => truthOfFloat (Binary64.ofDecimal d)
  | _ => .error .notTruth

def readMode : Value → Except SettingProblem IndexMode
  | .text s =>
    match IndexMode.ofText? s with
    | some m => .ok m
    | none => .error .notMode
  | _ => .error .notMode

def readPath : Value → Except SettingProblem Path
  | .text s => .ok (Path.ofText s)
  | _ => .error .notPath

/-! ### Sources -/

/-- Where values come from. -/
structure Sources where
  given : List (String × Value) := []
  environment : List (String × String) := []
  file : List (String × Option String) := []

/-- Are two names the same but for their case? -/
def sameName (a b : String) : Bool := Text.lower a.toList == Text.lower b.toList

/-- The value of the variable `name`, in any case. The last of two writings of one name counts. -/
def binding? (bound : List (String × Option String)) (name : String) : Option Value :=
  match (bound.reverse.find? fun v => sameName v.1 name) with
  | some (_, some s) => some (.text s)
  | _ => none

/-- The value given for a setting, with the name it counts under. A name as it is spelled comes before one in another
case, and the latter counts as the name kept for this program. -/
def given? (given : List (String × Value)) (names : SettingNames) : Option (String × Value) :=
  let spelled (name : String) := (given.lookup name).map fun v => (name, v)
  let inAnyCase (name : String) := (given.find? fun g => sameName g.1 name).map fun g => (names.own, g.2)
  spelled names.own <|> spelled names.plain <|> inAnyCase names.own <|> inAnyCase names.plain

/-- The value of a setting, with the name under which it was given. -/
def find? (sources : Sources) (names : SettingNames) : Option (String × Value) :=
  let environment := sources.environment.map fun v => (v.1, some v.2)
  let under (key : String) (v : Option Value) : Option (String × Value) := v.map fun v => (key, v)
  given? sources.given names
    <|> under names.own (binding? environment names.own) <|> under names.own (binding? sources.file names.own)
    <|> under names.plain (binding? environment names.plain) <|> under names.plain (binding? sources.file names.plain)

/-- A setting as `read` takes it; `usual` where it is not given. -/
def setting {α : Type} (sources : Sources) (read : Value → Except SettingProblem α) (usual : α)
    (names : SettingNames) : Except SettingIssue α :=
  match find? sources names with
  | none => .ok usual
  | some (place, v) =>
    match read v with
    | .ok a => .ok a
    | .error problem => .error ⟨place, problem⟩

/-- The issue of a setting that could not be read. -/
def issue {α : Type} : Except SettingIssue α → List SettingIssue
  | .ok _ => []
  | .error i => [i]

/-- The settings that the sources give, or all that is wrong with them. -/
def ofSources (sources : Sources) : Except (List SettingIssue) Settings :=
  let usual : Settings := {}
  let idName := setting sources readText usual.idName idNames
  let synthesis := setting sources readTruth usual.synthesis synthesisNames
  let terminated := setting sources readTruth usual.terminated terminatedNames
  let mode := setting sources readMode usual.mode modeNames
  let directory := setting sources readPath usual.outputDirectory outputDirectoryNames
  let level := setting sources readText usual.logLevel logLevelNames
  match idName, synthesis, terminated, mode, directory, level with
  | .ok idName, .ok synthesis, .ok terminated, .ok mode, .ok directory, .ok level =>
    .ok { idName, synthesis, terminated, mode, outputDirectory := directory, logLevel := level }
  | _, _, _, _, _, _ =>
    .error (issue idName ++ issue synthesis ++ issue terminated ++ issue mode ++ issue directory ++ issue level)

end Settings
end SpannerSchema

import SpannerSchema.CommandLine.Switch
import SpannerSchema.Queries
import SpannerSchema.FileWork

/-! The command line: a level for messages, then one of three commands with its switches. A wrong command line
    leads to nothing but exit code 2 and a line that says what is wrong with it. -/

namespace SpannerSchema
namespace CommandLine

/-- How a run of the program ends. `reported` is the line shown for a failure that has a title; `escaped` is a
failure that has none; `usage` is what is wrong with a command line that is refused. -/
structure Outcome where
  exitCode : Nat := 0
  output : String := ""
  usage : Option UsageError := none
  reported : Option String := none
  escaped : Option Failure := none
  workspace : Workspace

/-! ### Commands -/

/-- A command with all that it was given. -/
inductive Command where
  | compile (files : TableFiles) (directory : Option Path) (file : Option String) (toStdout : Bool)
  | convert (described rows : Path) (file : Option Path)
  | queries (table : String) (database : Option String)

def globalSpelling : Spelling where
  long := [("--log-level", .logLevel), ("--help", .help)]

def compileSpelling : Spelling where
  long :=
    [ ("--described", .described), ("--keys", .keys), ("--out-dir", .outputDirectory), ("--out-file", .outputFile),
      ("--default-id", .idName), ("--assign-pk", .synthesis true), ("--no-pk", .synthesis false),
      ("--semicolon", .terminated true), ("--no-semicolon", .terminated false), ("--mul-without-reference", .mode),
      ("--stdout", .toStdout), ("--help", .help) ]
  short := [('d', .described), ('k', .keys)]

def convertSpelling : Spelling where
  long := [("--described", .described), ("--out", .rowsFile), ("--help", .help)]
  short := [('d', .described), ('o', .rowsFile)]

def queriesSpelling : Spelling where
  long := [("--schema", .database), ("--help", .help)]

/-- Why a command is not run: the command line is wrong, or a path in it is none. -/
inductive Refusal where
  | usage (e : UsageError)
  | failed (f : Failure)

/-- The path of a text, which no NUL may break off. -/
def readPath (s : String) : Except Refusal Path :=
  if (Path.ofText s).hasNul then .error (.failed (.file .nulInPath)) else .ok (Path.ofText s)

/-- The path of a file that has to be there. -/
def existing (ws : Workspace) (s : String) : Except Refusal Path := do
  let p ← readPath s
  if ws.isFile p then return p else throw (.usage .badFile)

/-- The mode of a name. -/
def readMode (name : String) : Except Refusal IndexMode :=
  match IndexMode.ofText? name with
  | some m => .ok m
  | none => .error (.usage .badChoice)

/-- Checks the value that counts for a switch: a file has to be there, a path has to be one, a mode has to be known. -/
def checkSwitch (ws : Workspace) (w : Words) (s : Switch) : Except Refusal Unit :=
  let value := (w.value? s).getD ""
  match s with
  | .described | .keys => (existing ws value).map fun _ => ()
  | .outputDirectory | .rowsFile => (readPath value).map fun _ => ()
  | .mode => (readMode value).map fun _ => ()
  | _ => .ok ()

/-- Checks the switches in their order. It comes before all other checks. -/
def checkSwitches (ws : Workspace) (w : Words) : Except Refusal Unit :=
  w.switches.forM fun given => checkSwitch ws w given.1

/-- The argument of a command. -/
def argument (w : Words) : Except Refusal String :=
  match w.arguments with
  | [] => .error (.usage .missingArgument)
  | a :: _ => .ok a

/-- The value of a switch that may not be left out. -/
def required (w : Words) (s : Switch) : Except Refusal String :=
  match w.value? s with
  | none => .error (.usage .missingSwitch)
  | some value => .ok value

/-- Checks that a command has no second argument. -/
def checkEnd (w : Words) : Except Refusal Unit :=
  match w.arguments with
  | _ :: _ :: _ => .error (.usage .extraArgument)
  | _ => .ok ()

/-- The path that the value of a switch denotes. -/
def Words.path? (w : Words) (s : Switch) : Option Path := (w.value? s).map Path.ofText

/-- A command with its words; none if they ask for help. -/
def readWith (spelling : Spelling) (words : List String) (read : Words → Except Refusal Command) :
    Except Refusal (Option Command) :=
  match scan spelling true words with
  | .error e => .error (.usage e)
  | .ok w => if (w.value? .help).isSome then .ok none else (read w).map some

/-- The compile command with its words. -/
def readCompile (s : Settings) (ws : Workspace) (w : Words) : Except Refusal Command := do
  checkSwitches ws w
  let table ← argument w
  let described ← required w .described
  checkEnd w
  let files : TableFiles :=
    { described := Path.ofText described, keys := w.path? .keys, table
      idName := some ((w.value? .idName).getD s.idName)
      synthesis := some ((w.choice? .synthesis).getD s.synthesis)
      terminated := some ((w.choice? .terminated).getD s.terminated)
      mode := some ((w.value? .mode).getD s.mode.text) }
  return .compile files (w.path? .outputDirectory) (w.value? .outputFile) (w.value? .toStdout).isSome

/-- The transform command with its words. -/
def readConvert (ws : Workspace) (w : Words) : Except Refusal Command := do
  checkSwitches ws w
  let rows ← existing ws (← argument w)
  let described ← required w .described
  checkEnd w
  return .convert (Path.ofText described) rows (w.path? .rowsFile)

/-- The queries command with its words. -/
def readQueries (w : Words) : Except Refusal Command := do
  let table ← argument w
  checkEnd w
  return .queries table (w.value? .database)

/-- A command's name with the reader of its words. -/
def commands (s : Settings) (ws : Workspace) :
    List (String × (List String → Except Refusal (Option Command))) :=
  [ ("compile", fun words => readWith compileSpelling words (readCompile s ws)),
    ("transform", fun words => readWith convertSpelling words (readConvert ws)),
    ("queries", fun words => readWith queriesSpelling words readQueries) ]

/-- The names of the levels of messages. -/
def levels : List String := ["CRITICAL", "FATAL", "ERROR", "WARN", "WARNING", "INFO", "DEBUG", "NOTSET"]

/-! ### Running -/

/-- The outcome of a piece of work. What it has shown comes before what it hands on. -/
def finish {α : Type} (ws : Workspace) (work : FileWork α) (output : α → String) : Outcome :=
  match work.run.run { workspace := ws } with
  | (.ok a, d) => { output := d.shown ++ Console.plain (output a), workspace := d.workspace }
  | (.error f, d) =>
    match f.title? with
    | some title =>
      { exitCode := 1, output := d.shown, workspace := d.workspace
        reported := some (Console.report title (f.message?.getD "")) }
    | none => { exitCode := 1, output := d.shown, escaped := some f, workspace := d.workspace }

/-- The outcome of a command. -/
def Command.run (s : Settings) (ws : Workspace) : Command → Outcome
  | compile files directory file toStdout =>
    if toStdout then finish ws (FileWork.compileFiles s files) Schema.toSql
    else finish ws (FileWork.writeStatements s files directory file) fun _ => ""
  | convert described rows file =>
    finish ws (FileWork.writeConverted described rows file) fun vs =>
      if file.isSome then "" else Json.render (.list vs)
  | queries table database =>
    { output := Console.plain
        (Queries.describe table true ++ "\n" ++ Queries.keyUsage table database true ++ "\n")
      workspace := ws }

/-- The outcome of a command line that is wrong. -/
def refused (ws : Workspace) (e : UsageError) : Outcome := { exitCode := 2, usage := some e, workspace := ws }

/-- The outcome of a failure before any work. -/
def escaped (ws : Workspace) (f : Failure) : Outcome := { exitCode := 1, escaped := some f, workspace := ws }

/-- The outcome of a command line. The command has to be known before the level of messages is set, and the level
before the words of the command are read. -/
def run (s : Settings) (ws : Workspace) (words : List String) : Outcome :=
  match scan globalSpelling false words with
  | .error e => refused ws e
  | .ok w =>
    if (w.value? .help).isSome then { workspace := ws }
    else
      match w.arguments with
      | [] => refused ws .missingCommand
      | name :: rest =>
        match (commands s ws).lookup name with
        | none => refused ws .unknownCommand
        | some read =>
          let level := String.ofList (Text.upper ((w.value? .logLevel).getD s.logLevel).toList)
          if !levels.contains level then escaped ws (.unknownLevel level)
          else
            match read rest with
            | .error (.usage e) => refused ws e
            | .error (.failed f) => escaped ws f
            | .ok none => { workspace := ws }
            | .ok (some command) => command.run s ws

end CommandLine
end SpannerSchema

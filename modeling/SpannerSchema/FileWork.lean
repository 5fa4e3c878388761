import SpannerSchema.Builder
import SpannerSchema.Console
import SpannerSchema.Json.Reader
import SpannerSchema.Json.Writer

/-! What the program does with files: it compiles the files that describe a table into a file of statements, and
    converts a file of rows. No file is written unless all the work on the rows has come to its end. -/

namespace SpannerSchema

/-- The files a piece of work works on and the lines it has shown. -/
structure Desk where
  workspace : Workspace
  shown : String := ""

/-- A piece of work at a desk. What it has shown and written stays when it fails. -/
abbrev FileWork := ExceptT Failure (StateM Desk)

namespace FileWork

/-- The outcome of a step that may fail. -/
def ofExcept {α : Type} (e : Except Failure α) : FileWork α :=
  match e with
  | .ok a => pure a
  | .error f => throw f

/-- Shows a line. -/
def report (s : String) : FileWork Unit := modify fun d => { d with shown := d.shown ++ Console.line s }

/-- Changes the files, or leaves them as they are. -/
def change (f : Workspace → Except FileError Workspace) : FileWork Unit := do
  let d ← get
  match f d.workspace with
  | .ok w => set { d with workspace := w }
  | .error e => throw (.file e)

/-- The rows in a file. -/
def loadRows (p : Path) : FileWork (List Value) := do
  let d ← get
  match d.workspace.readText p with
  | .error e => throw (.file e)
  | .ok s =>
    match Json.parse s with
    | .error reason => throw (.notJson p.text reason)
    | .ok (.list rows) => pure rows
    | .ok _ => throw (.notRows p.text)

end FileWork

/-- The files that describe a table, with the options for it. What is not given is as in the settings. -/
structure TableFiles where
  described : Path
  keys : Option Path := none
  table : String
  idName : Option String := none
  synthesis : Option Bool := none
  terminated : Option Bool := none
  mode : Option String := none
deriving Repr

namespace FileWork

/-- The statements of the table that files describe. -/
def compileFiles (s : Settings) (t : TableFiles) : FileWork Schema := do
  let b ← ofExcept (Builder.new none t.mode s)
  let b ← ofExcept (b.setTable (.text t.table))
  let rows ← loadRows t.described
  let b ← ofExcept (b.setColumns (.list rows))
  let b ← match t.keys with
    | none => pure b
    | some keys => do
      let rows ← loadRows keys
      ofExcept (b.setKeys (.list rows))
  let b := b.setIdName ((t.idName.map Value.text).getD b.idName)
  let b := b.setSynthesis ((t.synthesis.map Value.bool).getD b.synthesis)
  let b := b.setTerminated ((t.terminated.map Value.bool).getD b.terminated)
  ofExcept b.toSchema.2

/-- The path of the file of statements: in the given directory or that of the settings, under the given name or
that of the table. -/
def statementsPath (s : Settings) (table : String) (directory : Option Path) (file : Option String) : Path :=
  let name := file.getD ""
  let name := if name.isEmpty then String.ofList (Text.lower table.toList) ++ ".sql" else name
  directory.getD s.outputDirectory ++ Path.ofText name

/-- How many statements of each kind there are. -/
def summary (s : Schema) : String :=
  "Compiled " ++ Nat.repr s.tables.length ++ " table, " ++ Nat.repr s.indexes.length ++ " indexes, "
    ++ Nat.repr s.constraints.length ++ " constraints"

/-- Writes the statements of the table that files describe into a file, and gives its path. -/
def writeStatements (s : Settings) (t : TableFiles) (directory : Option Path) (file : Option String) :
    FileWork Path := do
  change (·.makeDirectory (directory.getD s.outputDirectory))
  let path := statementsPath s t.table directory file
  report ("Table: " ++ t.table)
  let schema ← compileFiles s t
  report (summary schema)
  change (·.makeDirectory path.parent)
  change (·.writeText path schema.toSql)
  report ("DDL: " ++ path.text)
  pure path

/-- The rows in a file, converted for the table that a file describes. -/
def convertFile (described rows : Path) : FileWork (List Value) := do
  let description ← loadRows described
  let columns ← ofExcept ((Rows.columns (.list description)).mapError .rows)
  let vs ← loadRows rows
  ofExcept ((Conversion.convertRows (Conversion.convertedNames columns) vs).mapError .conversion)

/-- Converts the rows in a file, and writes them into a file if one is named. -/
def writeConverted (described rows : Path) (file : Option Path) : FileWork (List Value) := do
  let converted ← convertFile described rows
  match file with
  | none => pure converted
  | some path =>
    change (·.makeDirectory path.parent)
    change (·.writeText path (Json.render (.list converted)))
    report ("Rows: " ++ Nat.repr converted.length ++ " → " ++ path.text)
    pure converted

end FileWork
end SpannerSchema

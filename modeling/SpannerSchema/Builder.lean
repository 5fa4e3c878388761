import SpannerSchema.Compiler
import SpannerSchema.Failure
import SpannerSchema.Rows.Reading
import SpannerSchema.Settings

/-! Building a table step by step: its name, its description, its keys and the options are set one at a time, in
    any order and as often as wanted, and the statements are compiled from what was set last. An option may be set
    to any value: whether it counts as true shows when the table is compiled. -/

namespace SpannerSchema

/-- The table that has been set, with its options as they were set. -/
structure BuildRequest where
  table : Value
  columns : List Column
  keys : List KeyUsage
  idName : Value
  synthesis : Value
  terminated : Value
deriving Repr

namespace BuildRequest

/-- The request for the compiler, with a name for a synthesized key. -/
def toCompile (r : BuildRequest) (idName : String) : CompileRequest where
  table := r.table.display
  columns := r.columns
  keys := r.keys
  idName := idName
  synthesis := r.synthesis.countsAsTrue
  terminated := r.terminated.countsAsTrue

/-- The statements of the table, and the compiler after its work. A name that is not a text can be set, but no key
can be given it: it does no harm to a table that has a primary key. -/
def compile (c : Compiler) (r : BuildRequest) : Compiler × Except Failure Schema :=
  match r.idName with
  | .text name =>
    let compiled := c.compile (r.toCompile name)
    (compiled.1, compiled.2.mapError .compile)
  | _ =>
    match c.compile (r.toCompile "") with
    | (c, .error e) => (c, .error (.compile e))
    | (c, .ok s) =>
      if r.columns.any fun column => column.marker? == some .primary then (c, .ok s)
      else (c, .error .keyNameNotText)

end BuildRequest

/-- What has been set so far, and the compiler for it. -/
structure Builder where
  compiler : Compiler
  table : Value := .null
  columns : List Column := []
  keys : List KeyUsage := []
  idName : Value
  synthesis : Value
  terminated : Value
deriving Repr

namespace Builder

/-- The mode of a name, where an empty name stands for the mode of the settings. -/
def chooseMode (mode : Option String) (s : Settings) : Except Failure IndexMode :=
  let name := mode.getD ""
  if name.isEmpty then .ok s.mode
  else
    match IndexMode.ofText? name with
    | some m => .ok m
    | none => .error .unknownMode

/-- A builder with nothing set but the options of the settings. Its compiler is given, or made for a mode. -/
def new (compiler : Option Compiler) (mode : Option String) (s : Settings) : Except Failure Builder :=
  let withCompiler (c : Compiler) : Builder :=
    { compiler := c, idName := .text s.idName, synthesis := .bool s.synthesis, terminated := .bool s.terminated }
  match compiler, mode with
  | some _, some _ => .error (.build .compilerAndMode)
  | some c, none => .ok (withCompiler c)
  | none, _ => (chooseMode mode s).map fun m => withCompiler { mode := m }

/-- The byte of a small letter in place of that of the capital. -/
def lowerByte (b : UInt8) : UInt8 := if 0x41 ≤ b && b ≤ 0x5A then b + 0x20 else b

/-- The builder with the table's name set, in lower case. -/
def setTable (b : Builder) : Value → Except Failure Builder
  | .text s => .ok { b with table := .text (String.ofList (Text.lower s.toList)) }
  | .bytes bs => .ok { b with table := .bytes (bs.map lowerByte) }
  | _ => .error .nameNotText

/-- The builder with the table's columns set from the rows of its description. -/
def setColumns (b : Builder) (rows : Value) : Except Failure Builder :=
  match Rows.columns rows with
  | .ok columns => .ok { b with columns := columns }
  | .error e => .error (.rows e)

/-- The builder with the table's keys set from the rows of its key usage. -/
def setKeys (b : Builder) (rows : Value) : Except Failure Builder :=
  match Rows.keyUsage rows with
  | .ok keys => .ok { b with keys := keys }
  | .error e => .error (.rows e)

/-- The builder with the name of a synthesized key set. -/
def setIdName (b : Builder) (name : Value) : Builder := { b with idName := name }

/-- The builder with leave to synthesize a key set. -/
def setSynthesis (b : Builder) (on : Value) : Builder := { b with synthesis := on }

/-- The builder with the ends of statements set. -/
def setTerminated (b : Builder) (on : Value) : Builder := { b with terminated := on }

/-- The table that has been set. A description is asked for before a name. -/
def request (b : Builder) : Except Failure BuildRequest :=
  if b.columns.isEmpty then .error (.build .noDescribedTable)
  else if !b.table.countsAsTrue then .error (.build .noTableName)
  else
    .ok { table := b.table, columns := b.columns, keys := b.keys, idName := b.idName, synthesis := b.synthesis,
          terminated := b.terminated }

/-- The statements of the table that has been set, and the builder after its compiler's work. -/
def toSchema (b : Builder) : Builder × Except Failure Schema :=
  match b.request with
  | .error e => (b, .error e)
  | .ok r =>
    let compiled := r.compile b.compiler
    ({ b with compiler := compiled.1 }, compiled.2)

end Builder
end SpannerSchema

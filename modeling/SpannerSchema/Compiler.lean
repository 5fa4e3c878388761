import SpannerSchema.Ddl.Statement
import SpannerSchema.Keys.Classification

/-! Compiling a described table into statements. A compiler works on one table at a time: it takes the table up,
    sorts the keys, declares the columns, and puts the table down again whatever came of it. -/

namespace SpannerSchema

/-- A table to be compiled. -/
structure CompileRequest where
  table : String
  columns : List Column
  keys : List KeyUsage := []
  idName : String := "id"
  synthesis : Bool := true
  terminated : Bool := true
deriving DecidableEq, Repr

/-- The columns as they are declared. The first type that has no target ends the list. -/
def compileColumns : List Column → Except CompileError (List CompiledColumn)
  | [] => .ok []
  | c :: rest =>
    match SourceType.toTarget c.type c.initial with
    | .error e => .error e
    | .ok target =>
      match compileColumns rest with
      | .error e => .error e
      | .ok compiled =>
        .ok ({ name := c.name, nullable := c.nullable, size := SourceType.size? c.type, isLast := rest.isEmpty,
               fragment := target.fragment, options := target.options } :: compiled)

/-- The table that a compiler has taken up, with the keys sorted so far. -/
structure Job where
  request : CompileRequest
  buckets : Buckets := {}
deriving DecidableEq, Repr

/-- The statements of the table, and the job as the work leaves it. -/
def Job.run (mode : IndexMode) (j : Job) : Job × Except CompileError Schema :=
  let r := j.request
  match classify mode { idName := r.idName, synthesis := r.synthesis } r.columns r.keys j.buckets with
  | (b, .error e) => ({ j with buckets := b }, .error e)
  | (b, .ok columns) =>
    ({ j with buckets := b }, (compileColumns columns).map fun cs => Ddl.assemble r.terminated r.table cs b)

/-- A compiler with the table it works on, if any. -/
structure Compiler where
  mode : IndexMode := .unique
  job : Option Job := none
deriving DecidableEq, Repr

namespace Compiler

/-- Has the compiler put down every table? -/
def isIdle (c : Compiler) : Bool := c.job.isNone

/-- The compiler with the table it works on put down. -/
def flush (c : Compiler) : Compiler := { c with job := none }

/-- The statements of a table, and the compiler after it has put the table down. -/
def compile (c : Compiler) (r : CompileRequest) : Compiler × Except CompileError Schema :=
  let worked := Job.run c.mode { request := r }
  (flush { c with job := some worked.1 }, worked.2)

end Compiler

/-- The statements of one table. -/
def compileTable (mode : IndexMode) (r : CompileRequest) : Except CompileError Schema :=
  (Compiler.compile { mode := mode } r).2

namespace Compiler

/-- A compiler may hold any table, abandoned at any column: compiling puts it down. -/
theorem compile_fst (c : Compiler) (r : CompileRequest) : (c.compile r).1 = { mode := c.mode } := rfl

/-- The outcome depends on the mode alone, not on the table that the compiler still holds. -/
theorem compile_snd (c : Compiler) (r : CompileRequest) : (c.compile r).2 = compileTable c.mode r := rfl

end Compiler
end SpannerSchema

import SpannerSchema.Compiler

/-! Using one compiler for many tables. A use takes a table up, fills its buckets as far as it gets, and puts the
    table down whatever stopped it. So a use leaves the compiler as it was built, and a run of uses answers as if each
    had a compiler of its own: nothing of an earlier table, finished or abandoned, reaches a later one. -/

namespace SpannerSchema
namespace Compiler

inductive Use where
  | compile (r : CompileRequest)
  | flush
deriving DecidableEq, Repr

/-- What a use comes to: statements or a failure, and nothing for a flush. -/
abbrev Outcome := Option (Except CompileError Schema)

def use (c : Compiler) : Use → Compiler × Outcome
  | .compile r => ((c.compile r).1, some (c.compile r).2)
  | .flush => (c.flush, none)

def useAll (c : Compiler) : List Use → List (Compiler × Outcome)
  | [] => []
  | u :: later => c.use u :: useAll (c.use u).1 later

/-- The outcome of a use by a compiler that was just built. -/
def Use.alone (mode : IndexMode) (u : Use) : Outcome := (use { mode := mode } u).2

/-! ### One use -/

theorem use_fst (c : Compiler) (u : Use) : (c.use u).1 = { mode := c.mode } := by
  cases u with
  | compile r => exact compile_fst c r
  | flush => rfl

theorem use_snd (c : Compiler) (u : Use) : (c.use u).2 = u.alone c.mode := by
  cases u with
  | compile r => exact congrArg some (compile_snd c r)
  | flush => rfl

/-! ### Runs -/

/-- After each use of a run the compiler is as it was built, and the use has come to what it comes to alone. -/
theorem useAll_eq (c : Compiler) (us : List Use) :
    c.useAll us = us.map fun u => ({ mode := c.mode }, u.alone c.mode) := by
  induction us generalizing c with
  | nil => rfl
  | cons u us ih =>
    have hu : c.use u = ({ mode := c.mode }, u.alone c.mode) := Prod.ext (use_fst c u) (use_snd c u)
    rw [useAll, List.map_cons, ih, hu]

/-- A compiler is idle after every use of every run, and no use is told from one by a new compiler. -/
theorem idle_and_alone_of_useAll (c : Compiler) (us : List Use) :
    (∀ step ∈ c.useAll us, step.1.isIdle = true) ∧ (c.useAll us).map Prod.snd = us.map (Use.alone c.mode) := by
  rw [useAll_eq]
  constructor
  · intro step hstep
    obtain ⟨u, -, rfl⟩ := List.mem_map.mp hstep
    rfl
  · rw [List.map_map]
    rfl

/-- A table whose second marker is unknown is abandoned with its first key in the buckets. The compiler keeps none of
it: the next table, which has no key, is given one. -/
example :
    let broken : CompileRequest :=
      { table := "a", columns := [{ name := "k", type := "int", key := some "PRI" },
                                  { name := "x", type := "int", key := some "KEY" }] }
    let next : CompileRequest := { table := "b", columns := [] }
    (Job.run .unique { request := broken }).1.buckets.primaryKeys = ["k"] ∧
      (({} : Compiler).useAll [.compile broken, .compile next]).map (fun step => step.2.map (·.toOption)) =
        [some none, some (some { tables := ["CREATE TABLE `b` (\n`id` INT64 NOT NULL\n) PRIMARY KEY (id);"] })] := by
  decide +kernel

end Compiler
end SpannerSchema

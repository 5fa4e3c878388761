import SpannerSchema.Proofs.Compiler.Parts

/-! The end of a statement. Whatever a statement is for, it closes with a parenthesis, and a semicolon comes after that where
    statements are terminated. Nothing else in it depends on that, nor do the parts it is made of, so a table has the same
    statements with semicolons and without but for these. -/

namespace SpannerSchema
namespace Ddl

/-- A statement, with and without a semicolon at its end, is a text that closes with a parenthesis and the end. -/
def Closes (statement : Bool → String) : Prop :=
  ∃ body, ∀ terminated, statement terminated = body ++ ")" ++ terminator terminated

section Templates
variable {statement : Bool → String} {table column : String}

theorem closes_createTable (columns : List CompiledColumn) (keys : List String) :
    Closes fun terminated => createTable terminated table columns keys := ⟨_, fun _ => rfl⟩

theorem closes_createUniqueIndex (g : UniqueGroup) : Closes fun terminated => createUniqueIndex terminated table g :=
  ⟨_, fun _ => rfl⟩

theorem closes_createSecondaryIndex : Closes fun terminated => createSecondaryIndex terminated table column :=
  ⟨_, fun _ => rfl⟩

theorem closes_addForeignKey (key : KeyUsage) : Closes fun terminated => addForeignKey terminated table key :=
  ⟨_, fun _ => rfl⟩

theorem Closes.terminated (h : Closes statement) : statement true = statement false ++ ";" := by
  obtain ⟨body, hbody⟩ := h
  rw [hbody, hbody]
  simp [terminator]

theorem Closes.getLast? (h : Closes statement) : (statement false).toList.getLast? = some ')' := by
  obtain ⟨body, hbody⟩ := h
  rw [hbody]
  simp [terminator]

end Templates

/-- The statements of one kind with semicolons, and the same without. -/
structure Terminates (xs ys : List String) : Prop where
  terminated : xs = ys.map (· ++ ";")
  closed : ∀ y ∈ ys, y.toList.getLast? = some ')'

section Kinds
variable {α : Type} {xs xs' ys ys' : List String}

/-- Statements from one template. -/
theorem terminates_map {statement : Bool → α → String} (h : ∀ a, Closes fun terminated => statement terminated a)
    (as : List α) : Terminates (as.map (statement true)) (as.map (statement false)) := by
  constructor
  case terminated =>
    rw [List.map_map]
    exact List.map_congr_left fun a _ => (h a).terminated
  case closed =>
    intro y hy
    obtain ⟨a, -, rfl⟩ := List.mem_map.mp hy
    exact (h a).getLast?

theorem Terminates.append (h : Terminates xs ys) (h' : Terminates xs' ys') : Terminates (xs ++ xs') (ys ++ ys') := by
  constructor
  case terminated => rw [h.terminated, h'.terminated, List.map_append]
  case closed =>
    intro y hy
    rcases List.mem_append.mp hy with hy | hy
    · exact h.closed y hy
    · exact h'.closed y hy

end Kinds

/-- The statements `s` of a table with semicolons, and its statements `t` without. -/
structure DiffersInEnds (s t : Schema) : Prop where
  tables : Terminates s.tables t.tables
  indexes : Terminates s.indexes t.indexes
  constraints : Terminates s.constraints t.constraints

theorem differsInEnds_assemble (table : String) (columns : List CompiledColumn) (b : Buckets) :
    DiffersInEnds (assemble true table columns b) (assemble false table columns b) := by
  constructor
  case tables => exact terminates_map (closes_createTable columns) [b.primaryKeys]
  case indexes =>
    exact (terminates_map closes_createUniqueIndex b.uniqueGroups).append
      (terminates_map (fun _ => closes_createSecondaryIndex) b.secondaryIndexes)
  case constraints => exact terminates_map closes_addForeignKey b.foreignKeys

end Ddl

namespace CompileRequest
open Ddl

/-- Semicolons make no difference but themselves: a table is refused for the same reason with them and without, or has the
same statements with one at the end of each, whatever tables the compilers still hold. -/
theorem compile_terminated (mode : IndexMode) (held held' : Option Job) (r : CompileRequest) :
    (∃ e, (Compiler.compile ⟨mode, held⟩ { r with terminated := true }).2 = .error e ∧
      (Compiler.compile ⟨mode, held'⟩ { r with terminated := false }).2 = .error e) ∨
    ∃ s t, (Compiler.compile ⟨mode, held⟩ { r with terminated := true }).2 = .ok s ∧
      (Compiler.compile ⟨mode, held'⟩ { r with terminated := false }).2 = .ok t ∧ DiffersInEnds s t := by
  have hparts (terminated : Bool) : ({ r with terminated } : CompileRequest).parts mode = r.parts mode := rfl
  simp only [Compiler.compile_snd, compileTable_eq_parts, hparts]
  cases r.parts mode with
  | error e => exact Or.inl ⟨e, rfl, rfl⟩
  | ok p => exact Or.inr ⟨_, _, rfl, rfl, differsInEnds_assemble r.table p.columns p.keys⟩

end CompileRequest
end SpannerSchema

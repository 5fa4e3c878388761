import SpannerSchema.Proofs.Compiler.Parts

/-! Which failure of a table is reported. Keys are sorted before types are looked at, and a missing key shows only when
    all columns are sorted. So a column at fault hides every later column, a missing key and every type; a missing key
    hides every type; and among the columns of one pass the first one is reported. The column that is made up for a
    missing key never fails. -/

namespace SpannerSchema
namespace CompileRequest
open Classification

variable {mode : IndexMode} {r : CompileRequest}

/-- The failure of a table, if there is one: that of the first column at fault, else the key that is missing and may
not be made up, else that of the first type without a target. -/
def firstFault? (r : CompileRequest) : Option CompileError :=
  match r.columns.findSome? (fault? r.keys) with
  | some e => some e
  | none =>
    if hasPrimary r.columns = false ∧ r.synthesis = false then some .noPrimaryKey
    else r.allColumns.findSome? typeFault?

theorem typeFault?_synthesized (name : String) : typeFault? (Column.synthesized name) = none := by
  show failure? (SourceType.toTarget "biginteger unsigned" none) = none
  decide +kernel

theorem findSome?_allColumns (r : CompileRequest) :
    r.allColumns.findSome? typeFault? = r.columns.findSome? typeFault? := by
  unfold allColumns withKey
  split
  · rfl
  · split
    · rfl
    · rw [List.findSome?_cons, typeFault?_synthesized]

theorem failure?_parts (mode : IndexMode) (r : CompileRequest) : failure? (r.parts mode) = r.firstFault? := by
  rw [parts_eq]
  unfold firstFault?
  cases r.columns.findSome? (fault? r.keys) with
  | some e => rfl
  | none =>
    dsimp only
    split
    · rfl
    · rw [failure?_map, failure?_compileColumns]

theorem firstFault?_eq_none_iff : r.firstFault? = none ↔
    (∀ x ∈ r.columns, fault? r.keys x = none) ∧ (hasPrimary r.columns = true ∨ r.synthesis = true) ∧
      ∀ x ∈ r.columns, typeFault? x = none := by
  unfold firstFault?
  rw [findSome?_allColumns, ← List.findSome?_eq_none_iff, ← List.findSome?_eq_none_iff]
  cases r.columns.findSome? (fault? r.keys) with
  | some e => simp
  | none =>
    by_cases hkey : hasPrimary r.columns = false ∧ r.synthesis = false
    · simp [hkey]
    · have hkey' : hasPrimary r.columns = true ∨ r.synthesis = true := by
        cases hp : hasPrimary r.columns
        · exact Or.inr (by simpa [hp] using hkey)
        · exact Or.inl rfl
      rw [if_neg hkey]
      exact ⟨fun h => ⟨rfl, hkey', h⟩, fun h => h.2.2⟩

/-- Compiling fails with the first fault and with nothing else. It succeeds exactly if every described column has a
place and a type with a target, and the table has a key or may be given one. A column that is made up has a type with
a target. -/
theorem compile_firstFault (c : Compiler) (r : CompileRequest) :
    (∀ e, (c.compile r).2 = .error e ↔ r.firstFault? = some e) ∧
    ((∃ s, (c.compile r).2 = .ok s) ↔
      (∀ x ∈ r.columns, fault? r.keys x = none) ∧ (hasPrimary r.columns = true ∨ r.synthesis = true) ∧
        ∀ x ∈ r.columns, typeFault? x = none) ∧
    r.allColumns.findSome? typeFault? = r.columns.findSome? typeFault? := by
  have hfault : failure? (c.compile r).2 = r.firstFault? := by
    rw [Compiler.compile_snd, failure?_compileTable, failure?_parts]
  refine ⟨fun e => ?_, ?_, findSome?_allColumns r⟩
  · rw [← failure?_eq_some_iff, hfault]
  · rw [← failure?_eq_none_iff, hfault, firstFault?_eq_none_iff]

/-- The unknown marker of the last column is reported, before the missing key and the unknown type of the first. -/
example :
    let first : Column := { name := "a", type := "nosuch" }
    let last : Column := { name := "b", type := "int", key := some "KEY" }
    firstFault? { table := "t", columns := [first, last], synthesis := false } = some (.invalidMarker "KEY") := by
  decide

end CompileRequest
end SpannerSchema

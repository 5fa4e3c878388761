import Mathlib.Data.List.Forall2
import SpannerSchema.Compiler
import SpannerSchema.Proofs.Keys.Groups

/-! What the statements of a table are made of: its columns as they are declared, and its keys. Compiling a table is
    finding these parts and writing them down, so that what is said of the statements is said of the parts. -/

namespace SpannerSchema

/-! ### Declared columns -/

/-- Why a column cannot be declared: its type has no target. -/
def typeFault? (c : Column) : Option CompileError := failure? (SourceType.toTarget c.type c.initial)

/-- A declaration of a column: its name and nullability, with the target of its type. -/
structure Declares (c : Column) (d : CompiledColumn) : Prop where
  name : d.name = c.name
  nullable : d.nullable = c.nullable
  target : SourceType.toTarget c.type c.initial = .ok ⟨d.fragment, d.options⟩

theorem compileColumns_cons_eq_ok {c : Column} {cs : List Column} {ds : List CompiledColumn}
    (h : compileColumns (c :: cs) = .ok ds) : ∃ target rest,
      SourceType.toTarget c.type c.initial = .ok target ∧ compileColumns cs = .ok rest ∧
      ds = { name := c.name, nullable := c.nullable, size := SourceType.size? c.type, isLast := cs.isEmpty,
             fragment := target.fragment, options := target.options } :: rest := by
  rw [compileColumns] at h
  cases ht : SourceType.toTarget c.type c.initial with
  | error e => simp [ht] at h
  | ok target =>
    cases hr : compileColumns cs with
    | error e => simp [ht, hr] at h
    | ok rest =>
      simp only [ht, hr, Except.ok.injEq] at h
      exact ⟨target, rest, rfl, rfl, h.symm⟩

/-- Declaring columns fails with the first type in their order that has no target. -/
theorem failure?_compileColumns (cs : List Column) : failure? (compileColumns cs) = cs.findSome? typeFault? := by
  induction cs with
  | nil => rfl
  | cons c cs ih =>
    rw [compileColumns, List.findSome?_cons, typeFault?]
    cases SourceType.toTarget c.type c.initial with
    | error e => rfl
    | ok target =>
      simp only [failure?]
      rw [← ih]
      cases compileColumns cs <;> rfl

theorem declares_compileColumns {cs : List Column} {ds : List CompiledColumn} (h : compileColumns cs = .ok ds) :
    List.Forall₂ Declares cs ds := by
  induction cs generalizing ds with
  | nil =>
    cases h
    exact .nil
  | cons c cs ih =>
    obtain ⟨target, rest, ht, hr, rfl⟩ := compileColumns_cons_eq_ok h
    exact .cons ⟨rfl, rfl, ht⟩ (ih hr)

theorem names_of_declares {cs : List Column} {ds : List CompiledColumn} (h : List.Forall₂ Declares cs ds) :
    ds.map (·.name) = cs.map (·.name) := by
  induction h with
  | nil => rfl
  | cons hd _ ih => rw [List.map_cons, List.map_cons, hd.name, ih]

theorem exists_of_declares {cs : List Column} {ds : List CompiledColumn} {d : CompiledColumn}
    (h : List.Forall₂ Declares cs ds) (hd : d ∈ ds) : ∃ c ∈ cs, Declares c d := by
  induction h with
  | nil => cases hd
  | @cons c d' cs ds hfirst _ ih =>
    rcases List.mem_cons.mp hd with rfl | hd
    · exact ⟨c, List.mem_cons_self, hfirst⟩
    · obtain ⟨c', hc', hdeclares⟩ := ih hd
      exact ⟨c', List.mem_cons_of_mem c hc', hdeclares⟩

/-! ### Parts -/

/-- What the statements of a table are made of. -/
structure TableParts where
  columns : List CompiledColumn
  keys : Buckets
deriving DecidableEq, Repr

namespace CompileRequest
open Classification

variable {mode : IndexMode} {r : CompileRequest} {p : TableParts}

/-- The columns of the table: those described, after a new one where the table has no key and no column of the usual
name. -/
def allColumns (r : CompileRequest) : List Column :=
  if hasPrimary r.columns then r.columns else withKey r.columns r.idName

def parts (mode : IndexMode) (r : CompileRequest) : Except CompileError TableParts :=
  match classify mode { idName := r.idName, synthesis := r.synthesis } r.columns r.keys {} with
  | (_, .error e) => .error e
  | (b, .ok columns) => (compileColumns columns).map fun cs => ⟨cs, b⟩

/-- The statements of a table are its parts written down. -/
theorem compileTable_eq_parts (mode : IndexMode) (r : CompileRequest) :
    compileTable mode r = (r.parts mode).map fun p => Ddl.assemble r.terminated r.table p.columns p.keys := by
  rcases hc : classify mode { idName := r.idName, synthesis := r.synthesis } r.columns r.keys {} with ⟨b, e | columns⟩
  · simp only [compileTable, Compiler.compile, Job.run, parts, hc]
    rfl
  · simp only [compileTable, Compiler.compile, Job.run, parts, hc]
    cases compileColumns columns <;> rfl

theorem parts_of_compileTable {s : Schema} (h : compileTable mode r = .ok s) :
    ∃ p, r.parts mode = .ok p ∧ s = Ddl.assemble r.terminated r.table p.columns p.keys := by
  rw [compileTable_eq_parts] at h
  obtain ⟨p, hp, rfl⟩ := exists_of_map_eq_ok h
  exact ⟨p, hp, rfl⟩

/-- A table comes to the same as another with its name and its parts. -/
theorem compile_congr (c : Compiler) {r' : CompileRequest} (htable : r'.table = r.table)
    (hterminated : r'.terminated = r.terminated) (hparts : r'.parts c.mode = r.parts c.mode) :
    c.compile r' = c.compile r := by
  have hfst : (c.compile r').1 = (c.compile r).1 := by rw [Compiler.compile_fst, Compiler.compile_fst]
  have hsnd : (c.compile r').2 = (c.compile r).2 := by
    rw [Compiler.compile_snd, Compiler.compile_snd, compileTable_eq_parts, compileTable_eq_parts, hparts, htable,
      hterminated]
  exact Prod.ext hfst hsnd

theorem failure?_compileTable (mode : IndexMode) (r : CompileRequest) :
    failure? (compileTable mode r) = failure? (r.parts mode) := by
  rw [compileTable_eq_parts, failure?_map]

theorem parts_of_placeAll {b : Buckets} (h : placeAll mode r.columns r.keys {} r.columns = (b, none)) :
    r.parts mode =
      if hasPrimary r.columns = false ∧ r.synthesis = false then .error .noPrimaryKey
      else (compileColumns r.allColumns).map fun cs =>
        ⟨cs, if hasPrimary r.columns then b else b.addPrimary r.idName⟩ := by
  unfold parts allColumns
  rw [classify_of_placeAll h]
  cases hasPrimary r.columns
  · cases r.synthesis <;> rfl
  · rfl

/-- The keys of a table that has parts are those sorted, and the columns that the sort gives back are declared in their
order. -/
theorem parts_eq_ok (h : r.parts mode = .ok p) :
    classify mode { idName := r.idName, synthesis := r.synthesis } r.columns r.keys {} = (p.keys, .ok r.allColumns) ∧
      compileColumns r.allColumns = .ok p.columns := by
  rcases hc : classify mode { idName := r.idName, synthesis := r.synthesis } r.columns r.keys {} with ⟨b, e | columns⟩
  · rw [parts, hc] at h
    cases h
  · rw [parts, hc] at h
    obtain ⟨cs, hcs, rfl⟩ := exists_of_map_eq_ok h
    obtain ⟨-, -, -, rfl⟩ := classify_eq_ok hc
    exact ⟨rfl, hcs⟩

/-! ### The parts of an accepted table -/

section Accepted
variable (h : r.parts mode = .ok p)
include h

theorem declares_parts : List.Forall₂ Declares r.allColumns p.columns := declares_compileColumns (parts_eq_ok h).2

theorem primaryKeys_parts : p.keys.primaryKeys =
    if hasPrimary r.columns then r.columns.filterMap primary? else [r.idName] := primaryKeys_classify (parts_eq_ok h).1

theorem foreignKeys_parts : p.keys.foreignKeys = r.columns.filterMap (foreign? r.keys) :=
  foreignKeys_classify (parts_eq_ok h).1

theorem secondaryIndexes_parts : p.keys.secondaryIndexes = r.columns.filterMap (secondary? mode r.keys) :=
  secondaryIndexes_classify (parts_eq_ok h).1

theorem uniqueGroups_parts : p.keys.uniqueGroups =
    (r.columns.filterMap (unique? mode r.keys)).eraseDups.map (groupOf r.columns r.keys) :=
  uniqueGroups_classify (parts_eq_ok h).1

end Accepted

/-! ### The parts without the sort -/

/-- The keys of a table, each list read off its columns and records. -/
def keysBrought (mode : IndexMode) (r : CompileRequest) : Buckets where
  primaryKeys := if hasPrimary r.columns then r.columns.filterMap primary? else [r.idName]
  foreignKeys := r.columns.filterMap (foreign? r.keys)
  uniqueGroups := (r.columns.filterMap (unique? mode r.keys)).eraseDups.map (groupOf r.columns r.keys)
  secondaryIndexes := r.columns.filterMap (secondary? mode r.keys)

theorem keys_parts (h : r.parts mode = .ok p) : p.keys = r.keysBrought mode := by
  calc
    p.keys = ⟨p.keys.primaryKeys, p.keys.foreignKeys, p.keys.uniqueGroups, p.keys.secondaryIndexes⟩ := rfl
    _ = r.keysBrought mode := by
      rw [primaryKeys_parts h, foreignKeys_parts h, uniqueGroups_parts h, secondaryIndexes_parts h, keysBrought]

/-- What a table comes to: the first column at fault, else the key that is missing, else the first type without a
target, else its declared columns with the keys that they bring. -/
theorem parts_eq (mode : IndexMode) (r : CompileRequest) : r.parts mode =
    match r.columns.findSome? (fault? r.keys) with
    | some e => .error e
    | none =>
      if hasPrimary r.columns = false ∧ r.synthesis = false then .error .noPrimaryKey
      else (compileColumns r.allColumns).map fun cs => ⟨cs, r.keysBrought mode⟩ := by
  rcases hb : placeAll mode r.columns r.keys {} r.columns with ⟨b, sorted⟩
  have hs : sorted = r.columns.findSome? (fault? r.keys) := by rw [← placeAll_snd, hb]
  rw [← hs]
  cases sorted with
  | some e => rw [parts, classify, hb]
  | none =>
    have hparts := parts_of_placeAll hb
    dsimp only
    split
    · next hmissing => rw [hparts, if_pos hmissing]
    · next hkey =>
      rw [if_neg hkey] at hparts
      cases hc : compileColumns r.allColumns with
      | error e =>
        rw [hparts, hc]
        rfl
      | ok cs =>
        rw [hc] at hparts
        rw [hparts, ← keys_parts hparts]

end CompileRequest
end SpannerSchema

import SpannerSchema.Proofs.Compiler.Parts

/-! The two modes. The mode says where a column of a key that is not unique goes if its first record names no referenced
    table: into the unique group of the record, or into an index of its own. Nothing else depends on it, so a table has
    the same statements in both modes but for its indexes. A group holds what the records give to its constraint and not
    what the columns bring, so a group that both modes have is the same in both. And in either mode a column that needs
    an index gets one. -/

namespace SpannerSchema

/-! ### Index statements -/

namespace Ddl

/-- Does a statement begin as that of a unique index? -/
def IsUniqueIndex (statement : String) : Prop := "CREATE UNIQUE".toList <+: statement.toList

/-- A statement for an index that lists a column. -/
inductive ListsColumn (terminated : Bool) (table column : String) : String → Prop
  | unique {g : UniqueGroup} (h : column ∈ g.columns) :
    ListsColumn terminated table column (createUniqueIndex terminated table g)
  | secondary : ListsColumn terminated table column (createSecondaryIndex terminated table column)

variable {terminated : Bool} {table column : String}

theorem isUniqueIndex_createUniqueIndex (g : UniqueGroup) : IsUniqueIndex (createUniqueIndex terminated table g) := by
  unfold IsUniqueIndex createUniqueIndex
  simp only [String.append_assoc]
  rw [String.toList_append]
  exact List.prefix_append _ _

theorem not_isUniqueIndex_createSecondaryIndex : ¬IsUniqueIndex (createSecondaryIndex terminated table column) := by
  unfold IsUniqueIndex createSecondaryIndex
  simp only [String.append_assoc]
  rw [String.toList_append]
  rintro ⟨rest, h⟩
  -- The eighth letter tells the two kinds of statement apart.
  have hword := congrArg (List.take 8) h
  rw [List.take_append_of_le_length (by decide), List.take_append_of_le_length (by decide)] at hword
  exact absurd hword (by decide)

end Ddl

namespace Classification

variable {mode : IndexMode} {keys : List KeyUsage} {c : Column} {columns : List Column} {constraint : String}

/-- Does a column need an index of its own or of a group? It does in a unique key, and in any other key unless it refers
to another table. -/
def NeedsIndex (keys : List KeyUsage) (c : Column) : Prop :=
  c.key = some "UNI" ∨
    c.key = some "MUL" ∧ ∀ detail, KeyUsage.firstFor? keys c.name = some detail → detail.isForeign = false

/-! ### What depends on the mode -/

/-- A constraint that a column brings in the one mode, it brings in the other. -/
theorem unique?_of_secondary (h : unique? .secondary keys c = some constraint) :
    unique? .unique keys c = some constraint := by
  obtain ⟨detail, ⟨hf, hway⟩, rfl⟩ := unique?_eq_some_iff.mp h
  refine unique?_eq_some_iff.mpr ⟨detail, ⟨hf, ?_⟩, rfl⟩
  rcases hway with hkey | ⟨-, hmode, -⟩
  · exact Or.inl hkey
  · cases hmode

/-- A column that needs an index is brought to a group that has it, or to an index of its own. A unique column without a
record is at fault and brought nowhere. -/
theorem brought_of_needsIndex (mode : IndexMode) (hc : NeedsIndex keys c) (hfault : fault? keys c = none) :
    (∃ constraint, unique? mode keys c = some constraint ∧ c.name ∈ members keys constraint) ∨
      secondary? mode keys c = some c.name := by
  cases hf : KeyUsage.firstFor? keys c.name with
  | none =>
    rcases hc with hkey | ⟨hkey, -⟩
    · have hmissing : ∀ k ∈ keys, k.column ≠ c.name := KeyUsage.firstFor?_eq_none_iff.mp hf
      rw [fault?, if_neg (by simp [hkey]), if_pos ⟨hkey, hmissing⟩] at hfault
      cases hfault
    · exact Or.inr (by simp [secondary?, hkey, hf])
  | some detail =>
    have hmember := mem_members hf
    rcases hc with hkey | ⟨hkey, hlocal⟩
    · exact Or.inl ⟨detail.constraint, by simp [unique?, hf, hkey], hmember⟩
    · have hd := hlocal detail hf
      cases mode with
      | unique => exact Or.inl ⟨detail.constraint, by simp [unique?, hf, hkey, hd], hmember⟩
      | secondary => exact Or.inr (by simp [secondary?, hf, hkey, hd])

end Classification

namespace CompileRequest
open Classification Ddl

variable {mode : IndexMode} {r : CompileRequest} {s t : Schema}

/-- The primary and the foreign keys of a table, its declared columns and its fault are the same in both modes. -/
theorem parts_modes (r : CompileRequest) : r.parts .secondary =
    (r.parts .unique).map fun p => { p with keys := r.keysBrought .secondary } := by
  rw [parts_eq, parts_eq]
  cases r.columns.findSome? (fault? r.keys) with
  | some e => rfl
  | none =>
    dsimp only
    split
    · rfl
    · cases compileColumns r.allColumns <;> rfl

/-- Each column that needs an index is listed by one. -/
def Indexed (r : CompileRequest) (s : Schema) : Prop :=
  ∀ c ∈ r.columns, NeedsIndex r.keys c → ∃ x ∈ s.indexes, ListsColumn r.terminated r.table c.name x

theorem indexes_of_compileTable (h : compileTable mode r = .ok s) : s.indexes =
    ((r.columns.filterMap (unique? mode r.keys)).eraseDups.map (groupOf r.columns r.keys)).map
        (createUniqueIndex r.terminated r.table)
      ++ (r.columns.filterMap (secondary? mode r.keys)).map (createSecondaryIndex r.terminated r.table) := by
  obtain ⟨p, hp, rfl⟩ := parts_of_compileTable h
  rw [assemble, uniqueGroups_parts hp, secondaryIndexes_parts hp]

theorem findSome?_fault?_of_compileTable (h : compileTable mode r = .ok s) :
    r.columns.findSome? (fault? r.keys) = none := by
  obtain ⟨p, hp, -⟩ := parts_of_compileTable h
  rw [parts_eq] at hp
  cases hf : r.columns.findSome? (fault? r.keys) with
  | none => rfl
  | some e =>
    rw [hf] at hp
    cases hp

/-- The unique indexes of a table are those of the groups that its columns bring. -/
theorem uniqueIndex_iff (h : compileTable mode r = .ok s) (x : String) : x ∈ s.indexes ∧ IsUniqueIndex x ↔
    ∃ c ∈ r.columns, ∃ constraint, unique? mode r.keys c = some constraint ∧
      createUniqueIndex r.terminated r.table (groupOf r.columns r.keys constraint) = x := by
  rw [indexes_of_compileTable h]
  constructor
  · rintro ⟨hx, hunique⟩
    rcases List.mem_append.mp hx with hx | hx
    · obtain ⟨g, hg, rfl⟩ := List.mem_map.mp hx
      obtain ⟨constraint, hname, rfl⟩ := List.mem_map.mp hg
      obtain ⟨c, hc, hu⟩ := List.mem_filterMap.mp (List.mem_eraseDups.mp hname)
      exact ⟨c, hc, constraint, hu, rfl⟩
    · obtain ⟨column, -, rfl⟩ := List.mem_map.mp hx
      exact absurd hunique not_isUniqueIndex_createSecondaryIndex
  · rintro ⟨c, hc, constraint, hu, rfl⟩
    have hgroup : constraint ∈ (r.columns.filterMap (unique? mode r.keys)).eraseDups :=
      List.mem_eraseDups.mpr (List.mem_filterMap.mpr ⟨c, hc, hu⟩)
    exact ⟨List.mem_append_left _ (List.mem_map_of_mem (List.mem_map_of_mem hgroup)),
      isUniqueIndex_createUniqueIndex _⟩

theorem indexed_of_compileTable (h : compileTable mode r = .ok s) : r.Indexed s := by
  intro c hc hneeds
  have hfault := List.findSome?_eq_none_iff.mp (findSome?_fault?_of_compileTable h) c hc
  rcases brought_of_needsIndex mode hneeds hfault with ⟨constraint, hu, hmember⟩ | hs
  · obtain ⟨hx, -⟩ := (uniqueIndex_iff h _).mpr ⟨c, hc, constraint, hu, rfl⟩
    exact ⟨_, hx, .unique (List.mem_eraseDups.mpr hmember)⟩
  · have hown : c.name ∈ r.columns.filterMap (secondary? mode r.keys) := List.mem_filterMap.mpr ⟨c, hc, hs⟩
    rw [indexes_of_compileTable h]
    exact ⟨_, List.mem_append_right _ (List.mem_map_of_mem hown), .secondary⟩

/-- A unique index of the one mode is there in the other, with the same columns and the same rows left out. -/
theorem uniqueIndex_of_secondary (hs : compileTable .unique r = .ok s) (ht : compileTable .secondary r = .ok t) :
    ∀ x ∈ t.indexes, IsUniqueIndex x → x ∈ s.indexes := by
  intro x hx hunique
  obtain ⟨c, hc, constraint, hu, rfl⟩ := (uniqueIndex_iff ht x).mp ⟨hx, hunique⟩
  exact ((uniqueIndex_iff hs _).mpr ⟨c, hc, constraint, unique?_of_secondary hu, rfl⟩).1

/-- What the statements `s` of a table in the mode `unique` and its statements `t` in the mode `secondary` have in
common. -/
structure ModesAgree (r : CompileRequest) (s t : Schema) : Prop where
  tables : t.tables = s.tables
  constraints : t.constraints = s.constraints
  uniqueKept : ∀ x ∈ t.indexes, IsUniqueIndex x → x ∈ s.indexes
  indexed : r.Indexed s ∧ r.Indexed t

/-- The mode shows in the indexes alone, whatever table a compiler still holds. -/
theorem compile_modes (held held' : Option Job) (r : CompileRequest) :
    (∃ e, (Compiler.compile ⟨.unique, held⟩ r).2 = .error e ∧ (Compiler.compile ⟨.secondary, held'⟩ r).2 = .error e) ∨
      ∃ s t, (Compiler.compile ⟨.unique, held⟩ r).2 = .ok s ∧ (Compiler.compile ⟨.secondary, held'⟩ r).2 = .ok t ∧
        ModesAgree r s t := by
  rw [Compiler.compile_snd, Compiler.compile_snd]
  dsimp only
  cases hp : r.parts .unique with
  | error e =>
    refine Or.inl ⟨e, ?_, ?_⟩
    · rw [compileTable_eq_parts, hp]
      rfl
    · rw [compileTable_eq_parts, parts_modes, hp]
      rfl
  | ok p =>
    have hs : compileTable .unique r = .ok (assemble r.terminated r.table p.columns p.keys) := by
      rw [compileTable_eq_parts, hp]
      rfl
    have ht : compileTable .secondary r = .ok (assemble r.terminated r.table p.columns (r.keysBrought .secondary)) := by
      rw [compileTable_eq_parts, parts_modes, hp]
      rfl
    have hkeys := keys_parts hp
    refine Or.inr ⟨_, _, hs, ht, ?_, ?_, uniqueIndex_of_secondary hs ht, indexed_of_compileTable hs,
      indexed_of_compileTable ht⟩
    · rw [hkeys]
      rfl
    · rw [hkeys]
      rfl

end CompileRequest
end SpannerSchema

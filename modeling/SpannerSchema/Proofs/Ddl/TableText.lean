import SpannerSchema.Proofs.ColumnType.Target
import SpannerSchema.Proofs.Compiler.Parts

/-! The text that creates a table. Its body is one declaration a column, with a comma and a line break between two; its
    key clause names at least one column, and only columns that the body declares. What the other statements name are
    described columns. -/

namespace SpannerSchema
namespace Ddl
open Classification

/-- The line of a column without its end. -/
def declaration (c : CompiledColumn) : String := quote c.name ++ " " ++ c.fragment ++ suffix c

/-- The marks of the last column put a comma and a line break between two declarations, and nothing after the last. -/
theorem join_columnLine {cs : List Column} {ds : List CompiledColumn} (h : compileColumns cs = .ok ds) :
    String.join (ds.map columnLine) = ",\n".intercalate (ds.map declaration) := by
  induction cs generalizing ds with
  | nil =>
    cases h
    rfl
  | cons c cs ih =>
    obtain ⟨target, rest, -, hrest, rfl⟩ := compileColumns_cons_eq_ok h
    rw [List.map_cons, List.map_cons, String.join_cons, ih hrest]
    cases cs with
    | nil =>
      cases hrest
      simp [columnLine, declaration]
    | cons c' cs =>
      obtain ⟨target', rest', -, -, rfl⟩ := compileColumns_cons_eq_ok hrest
      simp [columnLine, declaration, String.append_assoc]

variable {mode : IndexMode} {r : CompileRequest} {p : TableParts} {s : Schema}

/-! ### What an accepted table declares -/

/-- The statements `s` of a request `r` in terms of its parts `p`. -/
structure Declared (r : CompileRequest) (s : Schema) (p : TableParts) : Prop where
  table : s.tables = ["CREATE TABLE " ++ quote r.table ++ " (\n" ++ ",\n".intercalate (p.columns.map declaration)
    ++ "\n) PRIMARY KEY (" ++ ",".intercalate p.keys.primaryKeys ++ ")" ++ terminator r.terminated]
  columns : List.Forall₂ Declares
    (if ∃ c ∈ r.columns, c.key = some "PRI" ∨ c.name = r.idName then r.columns
      else Column.synthesized r.idName :: r.columns) p.columns
  columns_ne_nil : p.columns ≠ []
  no_last_comma : ∃ x, (",\n".intercalate (p.columns.map declaration)).toList.getLast? = some x ∧ x ≠ ','
  keys_ne_nil : p.keys.primaryKeys ≠ []
  keys_declared : ∀ name ∈ p.keys.primaryKeys, ∃ d ∈ p.columns, d.name = name
  indexes : s.indexes = p.keys.uniqueGroups.map (createUniqueIndex r.terminated r.table)
    ++ p.keys.secondaryIndexes.map (createSecondaryIndex r.terminated r.table)
  indexes_described : ∀ name ∈ p.keys.secondaryIndexes, ∃ c ∈ r.columns, c.name = name
  constraints : s.constraints = p.keys.foreignKeys.map (addForeignKey r.terminated r.table)
  constraints_described : ∀ k ∈ p.keys.foreignKeys, ∃ c ∈ r.columns, c.name = k.column
  distinct : (r.columns.map (·.name)).Nodup → (p.columns.map (·.name)).Nodup ∧ p.keys.primaryKeys.Nodup

theorem allColumns_eq (r : CompileRequest) : r.allColumns =
    if ∃ c ∈ r.columns, c.key = some "PRI" ∨ c.name = r.idName then r.columns
    else Column.synthesized r.idName :: r.columns := by
  unfold CompileRequest.allColumns withKey
  by_cases hp : hasPrimary r.columns = true
  · obtain ⟨c, hc, hkey⟩ := hasPrimary_iff.mp hp
    rw [if_pos hp, if_pos ⟨c, hc, Or.inl hkey⟩]
  · rw [if_neg hp]
    by_cases hn : ∃ c ∈ r.columns, c.name = r.idName
    · obtain ⟨c, hc, hname⟩ := hn
      have hany : (r.columns.any fun c => c.name == r.idName) = true := List.any_eq_true.mpr ⟨c, hc, by simp [hname]⟩
      rw [if_pos hany, if_pos ⟨c, hc, Or.inr hname⟩]
    · rw [if_neg (fun h => hn (by simpa using h)), if_neg]
      rintro ⟨c, hc, hkey | hname⟩
      · exact hp (hasPrimary_iff.mpr ⟨c, hc, hkey⟩)
      · exact hn ⟨c, hc, hname⟩

/-- The described columns are among the columns of the table, and one of these has the usual name if none is part of
the key. -/
theorem idName_mem_allColumns (hp : hasPrimary r.columns = false) : r.idName ∈ r.allColumns.map (·.name) := by
  unfold CompileRequest.allColumns withKey
  rw [hp, if_neg (by simp)]
  split
  · next hn =>
    obtain ⟨c, hc, hname⟩ := List.any_eq_true.mp hn
    exact List.mem_map.mpr ⟨c, hc, beq_iff_eq.mp hname⟩
  · simp [Column.synthesized]

theorem allColumns_ne_nil (r : CompileRequest) : r.allColumns ≠ [] := by
  rw [allColumns_eq]
  split
  · next h =>
    obtain ⟨c, hc, -⟩ := h
    exact List.ne_nil_of_mem hc
  · exact List.cons_ne_nil _ _

theorem columns_ne_nil_of_parts (h : r.parts mode = .ok p) : p.columns ≠ [] := by
  intro hnil
  have hdeclares := CompileRequest.declares_parts h
  rw [hnil] at hdeclares
  exact allColumns_ne_nil r (List.forall₂_nil_right_iff.mp hdeclares)

/-- The statement that creates a table with its declarations in one list. -/
theorem createTable_of_parts (h : r.parts mode = .ok p) (terminated : Bool) (table : String) (keys : List String) :
    createTable terminated table p.columns keys = "CREATE TABLE " ++ quote table ++ " (\n"
      ++ ",\n".intercalate (p.columns.map declaration) ++ "\n) PRIMARY KEY (" ++ ",".intercalate keys ++ ")"
      ++ terminator terminated := by
  obtain ⟨-, hcompiled⟩ := CompileRequest.parts_eq_ok h
  unfold createTable
  rw [join_columnLine hcompiled]

theorem keys_ne_nil_of_parts (h : r.parts mode = .ok p) : p.keys.primaryKeys ≠ [] := by
  rw [CompileRequest.primaryKeys_parts h]
  split
  · next hp =>
    obtain ⟨c, hc, hkey⟩ := hasPrimary_iff.mp hp
    exact List.ne_nil_of_mem (List.mem_filterMap.mpr ⟨c, hc, if_pos hkey⟩)
  · exact List.cons_ne_nil _ _

theorem keys_subset_of_parts (h : r.parts mode = .ok p) :
    ∀ name ∈ p.keys.primaryKeys, name ∈ r.allColumns.map (·.name) := by
  intro name hname
  rw [CompileRequest.primaryKeys_parts h] at hname
  split at hname
  · next hp =>
    obtain ⟨c, hc, hk⟩ := List.mem_filterMap.mp hname
    rw [CompileRequest.allColumns, if_pos hp]
    exact List.mem_map.mpr ⟨c, hc, name_of_primary? hk⟩
  · next hp =>
    obtain rfl := List.mem_singleton.mp hname
    exact idName_mem_allColumns (by simpa using hp)

theorem nodup_keys_of_parts (h : r.parts mode = .ok p) (hd : (r.columns.map (·.name)).Nodup) :
    p.keys.primaryKeys.Nodup := by
  rw [CompileRequest.primaryKeys_parts h]
  split
  · rw [filterMap_primary?]
    exact (List.filter_sublist.map _).nodup hd
  · simp

theorem nodup_allColumns (hd : (r.columns.map (·.name)).Nodup) : (r.allColumns.map (·.name)).Nodup := by
  rw [allColumns_eq]
  split
  · exact hd
  · next hnew =>
    refine List.nodup_cons.mpr ⟨fun hmem => ?_, hd⟩
    obtain ⟨c, hc, hname⟩ := List.mem_map.mp hmem
    exact hnew ⟨c, hc, Or.inr hname⟩

theorem declaration_eq (d : CompiledColumn) :
    declaration d = quote d.name ++ " " ++ TargetType.text ⟨d.fragment, d.options⟩ d.nullable := by
  rw [declaration, String.append_assoc]
  rfl

theorem getLast?_declaration {c : Column} {d : CompiledColumn} (h : Declares c d) :
    ∃ x, (declaration d).toList.getLast? = some x ∧ x ≠ ',' := by
  obtain ⟨x, hx, hne⟩ := TargetType.getLast?_text (TargetType.written_of_toTarget h.target) d.nullable
  refine ⟨x, ?_, hne⟩
  rw [declaration_eq, String.toList_append, List.getLast?_append, hx]
  rfl

/-- The body of a table is not empty: it ends with its last declaration, which ends with no comma. -/
theorem getLast?_body {cs : List Column} {ds : List CompiledColumn} (h : List.Forall₂ Declares cs ds) (hne : ds ≠ []) :
    ∃ x, (",\n".intercalate (ds.map declaration)).toList.getLast? = some x ∧ x ≠ ',' := by
  induction h with
  | nil => exact absurd rfl hne
  | @cons c d cs ds hd hds ih =>
    cases ds with
    | nil => simpa using getLast?_declaration hd
    | cons d' ds =>
      obtain ⟨x, hx, hcomma⟩ := ih (List.cons_ne_nil _ _)
      refine ⟨x, ?_, hcomma⟩
      rw [List.map_cons, List.map_cons, String.intercalate_cons_cons, String.toList_append, List.getLast?_append]
      rw [List.map_cons] at hx
      rw [hx]
      rfl

/-- What a compiler accepts, it declares. -/
theorem declared_of_compile {c : Compiler} (h : (c.compile r).2 = .ok s) :
    ∃ p, r.parts c.mode = .ok p ∧ Declared r s p := by
  rw [Compiler.compile_snd] at h
  obtain ⟨p, hp, rfl⟩ := CompileRequest.parts_of_compileTable h
  have hdeclares := CompileRequest.declares_parts hp
  have hnames := names_of_declares hdeclares
  have hcolumns := columns_ne_nil_of_parts hp
  refine ⟨p, hp, ?_⟩
  constructor
  case table => exact congrArg (fun text => [text]) (createTable_of_parts hp r.terminated r.table p.keys.primaryKeys)
  case columns => exact allColumns_eq r ▸ hdeclares
  case columns_ne_nil => exact hcolumns
  case no_last_comma => exact getLast?_body hdeclares hcolumns
  case keys_ne_nil => exact keys_ne_nil_of_parts hp
  case keys_declared =>
    intro name hname
    have hmem := keys_subset_of_parts hp name hname
    rw [← hnames] at hmem
    exact List.mem_map.mp hmem
  case indexes => rfl
  case indexes_described =>
    intro name hname
    rw [CompileRequest.secondaryIndexes_parts hp] at hname
    obtain ⟨x, hx, hs⟩ := List.mem_filterMap.mp hname
    exact ⟨x, hx, name_of_secondary? hs⟩
  case constraints => rfl
  case constraints_described =>
    intro k hk
    rw [CompileRequest.foreignKeys_parts hp] at hk
    obtain ⟨x, hx, hf⟩ := List.mem_filterMap.mp hk
    exact ⟨x, hx, name_of_foreign? hf⟩
  case distinct => exact fun hd => ⟨hnames ▸ nodup_allColumns hd, nodup_keys_of_parts hp hd⟩

/-- A table without a primary key: one column has an index of its own, one refers to another table. -/
def keyless : CompileRequest where
  table := "line"
  columns := [{ name := "note", type := "varchar(20)", key := some "MUL" },
              { name := "order_id", type := "int", nullable := false, key := some "MUL" }]
  keys := [{ table := "line", column := "order_id", constraint := "line_order", referencedTable := some "order",
             referencedColumn := some "id" }]

theorem declared_of_compile_keyless :
    ∃ s p, (({} : Compiler).compile keyless).2 = .ok s ∧ keyless.parts .unique = .ok p ∧ Declared keyless s p := by
  have h : (({} : Compiler).compile keyless).2 = .ok
      { tables := ["CREATE TABLE `line` (\n`id` INT64 NOT NULL,\n`note` STRING(20),\n`order_id` INT64 NOT NULL\n) " ++
          "PRIMARY KEY (id);"]
        indexes := ["CREATE INDEX `LineByNote` ON `line` (`note`);"]
        constraints := ["ALTER TABLE `line` ADD CONSTRAINT `line_order` FOREIGN KEY (`order_id`) " ++
          "REFERENCES `order` (`id`);"] } := eq_ok_of_toOption (by decide +kernel)
  obtain ⟨p, hp, hdeclared⟩ := declared_of_compile h
  exact ⟨_, p, h, hp, hdeclared⟩

end Ddl
end SpannerSchema

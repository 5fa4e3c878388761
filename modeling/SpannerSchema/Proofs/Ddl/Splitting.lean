import SpannerSchema.Proofs.Ddl.Decoding
import SpannerSchema.Proofs.Ddl.ForeignKeys
import SpannerSchema.Proofs.Text.Pieces

/-! Cutting the file of a table into its statements. The statements that are not the first stay on one line each. The
    first has more lines, but none of them is empty: the columns of a table are never none, also where it describes
    none, and what stands between two of them holds a comma before its line break. So a blank line of the file stands
    between two statements, and every statement but the last is followed by one. -/

namespace SpannerSchema

/-! ### Letters in upper case -/

namespace Text

theorem ofNat_ne_newline {n : Nat} (h : n ≠ 10) : Char.ofNat n ≠ '\n' := by
  intro hn
  have hval := congrArg Char.toNat hn
  by_cases hv : n.isValidChar
  · rw [Char.ofNat, dif_pos hv] at hval
    exact h hval
  · rw [Char.ofNat, dif_neg hv] at hval
    cases hval

/-- A line break is the upper-case form of no other character. -/
theorem newline_not_mem_upperChar {c : Char} (hc : c ≠ '\n') : '\n' ∉ upperChar c := by
  have hascii : ∀ n < 128, (Char.ofNat n).toUpper = '\n' → n = 10 := by decide +kernel
  have hlong : ∀ entry ∈ upperLong, ∀ n ∈ entry.2, n ≠ 10 := by decide +kernel
  have hruns : ∀ r ∈ upperRuns, 10 < r.first + r.shift := by decide +kernel
  unfold upperChar
  split
  · next hc' =>
    rw [List.mem_singleton]
    intro hupper
    have hn := hascii c.toNat hc' (by rw [Char.ofNat_toNat, ← hupper])
    exact hc (Char.toNat_inj.mp hn)
  · unfold mapCase
    split
    · next entry hentry =>
      rw [List.mem_map]
      rintro ⟨n, hn, hsame⟩
      exact ofNat_ne_newline (hlong entry (List.mem_of_find?_eq_some hentry) n hn) hsame
    · split
      · next r hr =>
        have hshift := hruns r (List.mem_of_find?_eq_some hr)
        have hcovers := List.find?_some hr
        simp only [CaseRun.covers, Bool.and_eq_true, decide_eq_true_eq] at hcovers
        rw [List.mem_singleton]
        exact (ofNat_ne_newline (by omega)).symm
      · simpa using hc.symm

theorem newline_not_mem_upperFirst {cs : List Char} (h : '\n' ∉ cs) : '\n' ∉ upperFirst cs := by
  cases cs with
  | nil => exact h
  | cons c cs =>
    rw [List.mem_cons, not_or] at h
    rw [upperFirst, List.mem_append, not_or]
    exact ⟨newline_not_mem_upperChar (Ne.symm h.1), h.2⟩

end Text

namespace Ddl
open Classification

/-! ### Names without a line break -/

/-- A request whose names and types have no line break. -/
structure OneLine (r : CompileRequest) : Prop where
  table : '\n' ∉ r.table.toList
  idName : '\n' ∉ r.idName.toList
  names : ∀ c ∈ r.columns, '\n' ∉ c.name.toList
  types : ∀ c ∈ r.columns, '\n' ∉ c.type.toList
  members : ∀ k ∈ r.keys, '\n' ∉ k.column.toList
  constraints : ∀ k ∈ r.keys, '\n' ∉ k.constraint.toList
  referencedTables : ∀ k ∈ r.keys, ∀ name ∈ k.referencedTable, '\n' ∉ name.toList
  referencedColumns : ∀ k ∈ r.keys, ∀ name ∈ k.referencedColumn, '\n' ∉ name.toList

variable {terminated : Bool} {table column name : String} {g : UniqueGroup} {k : KeyUsage}

theorem newline_not_mem_quote (h : '\n' ∉ name.toList) : '\n' ∉ (quote name).toList := by
  simpa [quote] using h

theorem newline_not_mem_capitalized (h : '\n' ∉ name.toList) : '\n' ∉ (capitalized name).toList := by
  rw [capitalized, String.toList_ofList]
  exact Text.newline_not_mem_upperFirst h

theorem newline_not_mem_createUniqueIndex (htable : '\n' ∉ table.toList) (hname : '\n' ∉ g.name.toList)
    (hcolumns : ∀ c ∈ g.columns, '\n' ∉ c.toList) : '\n' ∉ (createUniqueIndex terminated table g).toList := by
  have hlist : '\n' ∉ (quoteList g.columns).toList := by
    refine newline_not_mem_intercalate (by simp) fun q hq => ?_
    obtain ⟨c, hc, rfl⟩ := List.mem_map.mp hq
    exact newline_not_mem_quote (hcolumns c hc)
  have hend := newline_not_mem_terminator terminated
  unfold createUniqueIndex
  cases g.nullFiltered <;> simp [newline_not_mem_quote htable, newline_not_mem_quote hname, hlist, hend]

theorem newline_not_mem_createSecondaryIndex (htable : '\n' ∉ table.toList) (hcolumn : '\n' ∉ column.toList) :
    '\n' ∉ (createSecondaryIndex terminated table column).toList := by
  have hname : '\n' ∉ (secondaryIndexName table column).toList := by
    simp [secondaryIndexName, newline_not_mem_capitalized htable, newline_not_mem_capitalized hcolumn]
  have hend := newline_not_mem_terminator terminated
  unfold createSecondaryIndex
  simp [newline_not_mem_quote hname, newline_not_mem_quote htable, newline_not_mem_quote hcolumn, hend]

theorem newline_not_mem_addForeignKey (htable : '\n' ∉ table.toList) (hcolumn : '\n' ∉ k.column.toList)
    (hconstraint : '\n' ∉ k.constraint.toList) (htables : ∀ name ∈ k.referencedTable, '\n' ∉ name.toList)
    (hcolumns : ∀ name ∈ k.referencedColumn, '\n' ∉ name.toList) : '\n' ∉ (addForeignKey terminated table k).toList := by
  have hgetD {name? : Option String} (h : ∀ name ∈ name?, '\n' ∉ name.toList) : '\n' ∉ (name?.getD "").toList := by
    cases name? with
    | none => simp
    | some name => exact h name rfl
  have hend := newline_not_mem_terminator terminated
  unfold addForeignKey
  simp [newline_not_mem_quote htable, newline_not_mem_quote hconstraint, newline_not_mem_quote hcolumn,
    newline_not_mem_quote (hgetD htables), newline_not_mem_quote (hgetD hcolumns), hend]

/-! ### Lines of a table -/

/-- Lines with a comma and a line break between two, before more lines. -/
theorem filled_lines {ls : List (List Char)} {rest : List Char} (hne : ls ≠ []) (hls : ∀ l ∈ ls, l ≠ [] ∧ '\n' ∉ l)
    (hrest : Text.Filled rest) : Text.Filled ([',', '\n'].intercalate ls ++ '\n' :: rest) := by
  induction ls with
  | nil => exact absurd rfl hne
  | cons l ls ih =>
    obtain ⟨hl, hl'⟩ := hls l List.mem_cons_self
    by_cases hlast : ls = []
    · subst hlast
      rw [List.intercalate_singleton]
      exact Text.filled_append_iff.mpr ⟨Text.filled_of_not_mem hl hl', hrest⟩
    · rw [intercalate_append l rest hlast]
      have hcomma : Text.Filled (l ++ [',']) := Text.filled_of_not_mem (by simp) (by simpa using hl')
      exact Text.filled_append_iff.mpr ⟨hcomma, ih hlast fun l' h => hls l' (List.mem_cons_of_mem l h)⟩

section
variable {mode : IndexMode} {r : CompileRequest} {p : TableParts} (hr : OneLine r)
include hr

theorem OneLine.allColumns : ∀ c ∈ r.allColumns, '\n' ∉ c.name.toList ∧ '\n' ∉ c.type.toList :=
  forall_mem_allColumns ⟨hr.idName, newline_not_mem_synthesized r.idName⟩ fun c hc => ⟨hr.names c hc, hr.types c hc⟩

theorem OneLine.not_mem_keyClause (h : r.parts mode = .ok p) (terminated : Bool) :
    '\n' ∉ (keyClause terminated p.keys.primaryKeys).toList := by
  refine newline_not_mem_keyClause fun name hname => ?_
  obtain ⟨c, hc, rfl⟩ := List.mem_map.mp (keys_subset_of_parts h name hname)
  exact (hr.allColumns c hc).1

theorem OneLine.not_mem_declaration (h : r.parts mode = .ok p) : ∀ d ∈ p.columns, '\n' ∉ (declaration d).toList := by
  intro d hd
  obtain ⟨c, hc, hdeclares⟩ := exists_of_declares (CompileRequest.declares_parts h) hd
  obtain ⟨hname, htype⟩ := hr.allColumns c hc
  exact newline_not_mem_declaration hdeclares hname htype

theorem filled_createTable (h : r.parts mode = .ok p) (terminated : Bool) :
    Text.Filled (createTable terminated r.table p.columns p.keys.primaryKeys).toList := by
  have hopening : Text.Filled ("CREATE TABLE " ++ quote r.table ++ " (").toList := by
    refine Text.filled_of_not_mem (by simp) ?_
    simp [newline_not_mem_quote hr.table]
  have hclause : Text.Filled (keyClause terminated p.keys.primaryKeys).toList :=
    Text.filled_of_not_mem (by simp [toList_keyClause]) (hr.not_mem_keyClause h terminated)
  have hlines : ∀ l ∈ p.columns.map fun d => (declaration d).toList, l ≠ [] ∧ '\n' ∉ l := by
    intro l hl
    obtain ⟨d, hd, rfl⟩ := List.mem_map.mp hl
    exact ⟨by simp [declaration_eq, quote], hr.not_mem_declaration h d hd⟩
  have hbody := filled_lines (by simpa using columns_ne_nil_of_parts h) hlines hclause
  have hbreak : " (\n" = " (" ++ "\n" := rfl
  rw [table_text h, hbreak, ← String.append_assoc, String.toList_append, List.append_assoc]
  exact Text.filled_append_iff.mpr ⟨hopening, hbody⟩

end

/-! ### The file -/

/-- The statements of a table by their kinds. -/
def statementsOf (r : CompileRequest) (p : TableParts) : List String :=
  createTable r.terminated r.table p.columns p.keys.primaryKeys ::
    (p.keys.uniqueGroups.map (createUniqueIndex r.terminated r.table)
      ++ p.keys.secondaryIndexes.map (createSecondaryIndex r.terminated r.table)
      ++ p.keys.foreignKeys.map (addForeignKey r.terminated r.table))

variable {mode : IndexMode} {r : CompileRequest} {p : TableParts} {s : Schema}

theorem filled_statementsOf (hr : OneLine r) (h : r.parts mode = .ok p) :
    ∀ x ∈ statementsOf r p, Text.Filled x.toList := by
  intro x hx
  simp only [statementsOf, List.mem_cons, List.mem_append, List.mem_map] at hx
  rcases hx with rfl | (⟨g, hg, rfl⟩ | ⟨column, hcolumn, rfl⟩) | ⟨k, hk, rfl⟩
  · exact filled_createTable hr h r.terminated
  · rw [CompileRequest.uniqueGroups_parts h] at hg
    obtain ⟨detail, hmem, rfl⟩ := exists_eq_groupOf hg
    refine Text.filled_of_not_mem (by unfold createUniqueIndex; simp) ?_
    refine newline_not_mem_createUniqueIndex hr.table (hr.constraints detail hmem) fun name hname => ?_
    -- The columns of a group are those of records, described or not.
    obtain ⟨k, hk, rfl⟩ := List.mem_map.mp (List.mem_eraseDups.mp hname)
    exact hr.members k (List.mem_of_mem_filter hk)
  · rw [CompileRequest.secondaryIndexes_parts h] at hcolumn
    obtain ⟨c, hc, hs⟩ := List.mem_filterMap.mp hcolumn
    obtain rfl := name_of_secondary? hs
    exact Text.filled_of_not_mem (by unfold createSecondaryIndex; simp)
      (newline_not_mem_createSecondaryIndex hr.table (hr.names c hc))
  · rw [CompileRequest.foreignKeys_parts h] at hk
    obtain ⟨hmem, -⟩ := mem_keys_of_foreignRecords hk
    refine Text.filled_of_not_mem (by unfold addForeignKey; simp) ?_
    exact newline_not_mem_addForeignKey hr.table (hr.members k hmem) (hr.constraints k hmem) (hr.referencedTables k hmem)
      (hr.referencedColumns k hmem)

/-- The file of an accepted table ends with one line break, and what stands before it is cut at its blank lines into the
statements of the table. -/
theorem split_compile {c : Compiler} (hr : OneLine r) (h : (c.compile r).2 = .ok s) :
    ∃ p body, r.parts c.mode = .ok p ∧ s.statements = statementsOf r p ∧ s.toSql = body ++ "\n" ∧
      body.toList.getLast? ≠ some '\n' ∧ (body.split "\n\n").toList.map String.Slice.copy = statementsOf r p ∧
      (body.split "\n\n").toList.length
        = 1 + p.keys.uniqueGroups.length + p.keys.secondaryIndexes.length + p.keys.foreignKeys.length := by
  rw [Compiler.compile_snd] at h
  obtain ⟨p, hp, rfl⟩ := CompileRequest.parts_of_compileTable h
  have hne : statementsOf r p ≠ [] := List.cons_ne_nil _ _
  obtain ⟨hsplit, hlast⟩ := Text.split_blankLines hne (filled_statementsOf hr hp)
  refine ⟨p, "\n\n".intercalate (statementsOf r p), hp, rfl, rfl, hlast, hsplit, ?_⟩
  have hlength := congrArg List.length hsplit
  rw [List.length_map] at hlength
  rw [hlength]
  simp only [statementsOf, List.length_cons, List.length_append, List.length_map]
  omega

/-- A table without a primary key, with a statement of every kind. -/
def visits : CompileRequest where
  table := "visits"
  columns := [{ name := "guest", type := "int", nullable := false, key := some "MUL" },
              { name := "day", type := "date", nullable := false, key := some "UNI" },
              { name := "note", type := "varchar(20)", key := some "MUL" }]
  keys := [{ table := "visits", column := "guest", constraint := "visited_by", referencedTable := some "people",
             referencedColumn := some "id" },
           { table := "visits", column := "day", constraint := "one_a_day" }]

theorem split_compile_visits : ∃ s body, OneLine visits ∧ (({} : Compiler).compile visits).2 = .ok s ∧
    s.toSql = body ++ "\n" ∧ (body.split "\n\n").toList.map String.Slice.copy =
      ["CREATE TABLE `visits` (\n`id` INT64 NOT NULL,\n`guest` INT64 NOT NULL,\n`day` DATE NOT NULL,\n" ++
        "`note` STRING(20)\n) PRIMARY KEY (id);",
       "CREATE UNIQUE INDEX `one_a_day` ON `visits` (`day`);",
       "CREATE INDEX `VisitsByNote` ON `visits` (`note`);",
       "ALTER TABLE `visits` ADD CONSTRAINT `visited_by` FOREIGN KEY (`guest`) REFERENCES `people` (`id`);"] := by
  have h : (({} : Compiler).compile visits).2 = .ok
      { tables := ["CREATE TABLE `visits` (\n`id` INT64 NOT NULL,\n`guest` INT64 NOT NULL,\n`day` DATE NOT NULL,\n" ++
          "`note` STRING(20)\n) PRIMARY KEY (id);"]
        indexes := ["CREATE UNIQUE INDEX `one_a_day` ON `visits` (`day`);",
                    "CREATE INDEX `VisitsByNote` ON `visits` (`note`);"]
        constraints := ["ALTER TABLE `visits` ADD CONSTRAINT `visited_by` FOREIGN KEY (`guest`) " ++
          "REFERENCES `people` (`id`);"] } := eq_ok_of_toOption (by decide +kernel)
  have hr : OneLine visits := by constructor <;> decide +kernel
  obtain ⟨p, body, -, hstatements, hsql, -, hsplit, -⟩ := split_compile hr h
  exact ⟨_, body, hr, h, hsql, hsplit.trans hstatements.symm⟩

end Ddl
end SpannerSchema

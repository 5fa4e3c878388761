import SpannerSchema.Proofs.Compiler.Parts
import SpannerSchema.Proofs.Keys.Members
import SpannerSchema.Proofs.Text.Letters

/-! The names of the indexes of a table. A unique index has the name of its constraint, and a constraint has one group.
    Any other index has a name made of those of the table and the column, each with its first letter in upper case, and a
    column has one such index. So two names can clash only if columns differ in the case of letters alone, or a
    constraint is named like an index that is made up. -/

namespace SpannerSchema
namespace Ddl
open Classification

variable {table column column' name statement : String} {b : Buckets} {r : CompileRequest}

/-- The names of the indexes of a table, in the order of the statements that create them. -/
def indexNames (table : String) (b : Buckets) : List String :=
  b.uniqueGroups.map (·.name) ++ b.secondaryIndexes.map (secondaryIndexName table)

/-- How a statement begins that creates an index. -/
def indexOpenings : List String := ["CREATE UNIQUE INDEX ", "CREATE UNIQUE NULL_FILTERED INDEX ", "CREATE INDEX "]

/-- The statement creates an index of the name on the table. -/
def CreatesIndex (table name statement : String) : Prop :=
  ∃ opening ∈ indexOpenings, ∃ columns, statement = opening ++ quote name ++ " ON " ++ quote table ++ " (" ++ columns

theorem createsIndex_createUniqueIndex (terminated : Bool) (table : String) (g : UniqueGroup) :
    CreatesIndex table g.name (createUniqueIndex terminated table g) := by
  have hopening : "CREATE UNIQUE" ++ (if g.nullFiltered then " NULL_FILTERED" else "") ++ " INDEX " ∈ indexOpenings := by
    cases g.nullFiltered <;> decide +kernel
  refine ⟨_, hopening, quoteList g.columns ++ (")" ++ terminator terminated), ?_⟩
  unfold createUniqueIndex
  rw [String.append_assoc, String.append_assoc]

theorem createsIndex_createSecondaryIndex (terminated : Bool) (table column : String) :
    CreatesIndex table (secondaryIndexName table column) (createSecondaryIndex terminated table column) := by
  have hopening : "CREATE INDEX " ∈ indexOpenings := by decide
  refine ⟨_, hopening, quote column ++ (")" ++ terminator terminated), ?_⟩
  unfold createSecondaryIndex
  rw [String.append_assoc, String.append_assoc]

/-- Each statement that creates an index of a table stands at the place of its name. -/
theorem createsIndex_assemble (terminated : Bool) (table : String) (columns : List CompiledColumn) (b : Buckets) :
    List.Forall₂ (CreatesIndex table) (indexNames table b) (assemble terminated table columns b).indexes := by
  refine List.rel_append ?_ ?_
  · rw [List.forall₂_map_left_iff, List.forall₂_map_right_iff, List.forall₂_same]
    exact fun g _ => createsIndex_createUniqueIndex terminated table g
  · rw [List.forall₂_map_left_iff, List.forall₂_map_right_iff, List.forall₂_same]
    exact fun column _ => createsIndex_createSecondaryIndex terminated table column

/-! ### Columns apart from case -/

/-- The first character of the name is one of ASCII. -/
def StartsInAscii (name : String) : Prop := ∃ c ∈ name.toList.head?, c.toNat < 128

/-- A request in which no two columns have one name up to case, and no constraint has the name of an index that is made
up for a column. -/
structure NamesApart (r : CompileRequest) : Prop where
  ascii : ∀ c ∈ r.columns, StartsInAscii c.name
  columns : (r.columns.map fun c => c.name.toLower).Nodup
  constraints : ∀ k ∈ r.keys, ∀ c ∈ r.columns, k.constraint ≠ secondaryIndexName r.table c.name

theorem exists_of_startsInAscii (h : StartsInAscii name) :
    ∃ c rest, name.toList = c :: rest ∧ (capitalized name).toList = c.toUpper :: rest := by
  obtain ⟨c, hhead, hc⟩ := h
  obtain ⟨rest, hname⟩ := List.head?_eq_some_iff.mp hhead
  refine ⟨c, rest, hname, ?_⟩
  rw [capitalized, String.toList_ofList, hname, Text.upperFirst, Text.upperChar, if_pos hc]
  rfl

/-- The upper case of a first letter hides its case and nothing else. -/
theorem toLower_eq_of_capitalized_eq (hcolumn : StartsInAscii column) (hcolumn' : StartsInAscii column')
    (h : capitalized column = capitalized column') : column.toLower = column'.toLower := by
  obtain ⟨c, rest, hname, hcapital⟩ := exists_of_startsInAscii hcolumn
  obtain ⟨c', rest', hname', hcapital'⟩ := exists_of_startsInAscii hcolumn'
  have hlist := congrArg String.toList h
  rw [hcapital, hcapital'] at hlist
  obtain ⟨hfirst, rfl⟩ := List.cons.inj hlist
  have hlower : c.toLower = c'.toLower := by rw [← Text.toLower_toUpper c, hfirst, Text.toLower_toUpper]
  have hmap (name : String) : name.toLower.toList = name.toList.map Char.toLower := String.toList_map
  rw [← String.toList_inj, hmap, hmap, hname, hname', List.map_cons, List.map_cons, hlower]

theorem capitalized_eq_of_secondaryIndexName_eq (h : secondaryIndexName table column = secondaryIndexName table column') :
    capitalized column = capitalized column' := by
  unfold secondaryIndexName at h
  exact (String.append_right_inj _).mp h

/-! ### Names of one table -/

section
variable {mode : IndexMode} {p : TableParts} (hr : NamesApart r) (h : r.parts mode = .ok p)
include h

/-- A column has at most one index that is not unique, and it is a described column. -/
theorem sublist_secondaryIndexes : p.keys.secondaryIndexes.Sublist (r.columns.map (·.name)) := by
  have hnames : ((r.columns.filterMap (secondary? mode r.keys)).map id).Sublist (r.columns.map (·.name)) :=
    sublist_of_brought (fun _ _ => name_of_secondary?) r.columns
  rwa [CompileRequest.secondaryIndexes_parts h, ← List.map_id (r.columns.filterMap _)]

include hr

theorem nodup_map_secondaryIndexName : (p.keys.secondaryIndexes.map (secondaryIndexName r.table)).Nodup := by
  have hsublist := sublist_secondaryIndexes h
  have hlower : (p.keys.secondaryIndexes.map String.toLower).Nodup := by
    have hcolumns := hr.columns
    rw [← Function.comp_def String.toLower, ← List.map_map] at hcolumns
    exact (hsublist.map String.toLower).nodup hcolumns
  have hascii : ∀ column ∈ p.keys.secondaryIndexes, StartsInAscii column := by
    intro column hcolumn
    obtain ⟨c, hc, rfl⟩ := List.mem_map.mp (hsublist.subset hcolumn)
    exact hr.ascii c hc
  refine List.Nodup.map_on ?_ (List.Nodup.of_map _ hlower)
  intro column hcolumn column' hcolumn' hsame
  have hcase := toLower_eq_of_capitalized_eq (hascii column hcolumn) (hascii column' hcolumn')
    (capitalized_eq_of_secondaryIndexName_eq hsame)
  exact List.inj_on_of_nodup_map hlower hcolumn hcolumn' hcase

theorem nodup_indexNames_parts : (indexNames r.table p.keys).Nodup := by
  have hgroups := nodup_names_uniqueGroups (CompileRequest.parts_eq_ok h).1
  refine List.Nodup.append hgroups (nodup_map_secondaryIndexName hr h) ?_
  intro name hgroup hindex
  obtain ⟨g, hg, rfl⟩ := List.mem_map.mp hgroup
  obtain ⟨column, hcolumn, hname⟩ := List.mem_map.mp hindex
  rw [CompileRequest.uniqueGroups_parts h] at hg
  obtain ⟨detail, hdetail, rfl⟩ := exists_eq_groupOf hg
  obtain ⟨c, hc, rfl⟩ := List.mem_map.mp ((sublist_secondaryIndexes h).subset hcolumn)
  exact hr.constraints detail hdetail c hc hname.symm

end

/-- The indexes of an accepted table have different names if its columns differ in more than case and no constraint has
the name of an index that is made up. -/
theorem nodup_indexNames_of_compile {c : Compiler} {s : Schema} (hr : NamesApart r) (h : (c.compile r).2 = .ok s) :
    ∃ p, r.parts c.mode = .ok p ∧ List.Forall₂ (CreatesIndex r.table) (indexNames r.table p.keys) s.indexes ∧
      (indexNames r.table p.keys).Nodup := by
  rw [Compiler.compile_snd] at h
  obtain ⟨p, hp, rfl⟩ := CompileRequest.parts_of_compileTable h
  exact ⟨p, hp, createsIndex_assemble r.terminated r.table p.columns p.keys, nodup_indexNames_parts hr hp⟩

/-- Stalls of a market. Two columns share a constraint, one of them marked as unique, and two have no record. -/
def stalls : CompileRequest where
  table := "stalls"
  columns := [{ name := "number", type := "int", nullable := false, key := some "PRI" },
              { name := "row", type := "int", nullable := false, key := some "UNI" },
              { name := "place", type := "int", key := some "MUL" },
              { name := "owner", type := "int", key := some "MUL" },
              { name := "Zoné", type := "int", key := some "MUL" }]
  keys := [{ table := "stalls", column := "row", constraint := "one_place" },
           { table := "stalls", column := "place", constraint := "one_place" }]

theorem nodup_indexNames_of_compile_stalls : ∃ s p, NamesApart stalls ∧ (({} : Compiler).compile stalls).2 = .ok s ∧
    stalls.parts .unique = .ok p ∧ s.indexes =
      ["CREATE UNIQUE NULL_FILTERED INDEX `one_place` ON `stalls` (`row`, `place`);",
       "CREATE INDEX `StallsByOwner` ON `stalls` (`owner`);", "CREATE INDEX `StallsByZoné` ON `stalls` (`Zoné`);"] ∧
    List.Forall₂ (CreatesIndex "stalls") (indexNames "stalls" p.keys) s.indexes ∧
    (indexNames "stalls" p.keys).Nodup := by
  have hr : NamesApart stalls := ⟨by simp [StartsInAscii, stalls], by decide +kernel, by decide +kernel⟩
  have h : (({} : Compiler).compile stalls).2 = .ok
      { tables := ["CREATE TABLE `stalls` (\n`number` INT64 NOT NULL,\n`row` INT64 NOT NULL,\n`place` INT64,\n" ++
          "`owner` INT64,\n`Zoné` INT64\n) PRIMARY KEY (number);"]
        indexes := ["CREATE UNIQUE NULL_FILTERED INDEX `one_place` ON `stalls` (`row`, `place`);",
                    "CREATE INDEX `StallsByOwner` ON `stalls` (`owner`);",
                    "CREATE INDEX `StallsByZoné` ON `stalls` (`Zoné`);"] } := eq_ok_of_toOption (by decide +kernel)
  obtain ⟨p, hp, hcreates, hnodup⟩ := nodup_indexNames_of_compile hr h
  exact ⟨_, p, hr, h, hp, rfl, hcreates, hnodup⟩

end Ddl
end SpannerSchema

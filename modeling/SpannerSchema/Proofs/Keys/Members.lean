import SpannerSchema.Proofs.Keys.Groups

/-! The columns of a unique group. When all columns have found their places, a group has the columns that the records
    give to its constraint, each where a record first names it, and it leaves out nulls if one of them may be null. The
    columns that brought the constraint are among these. So a group is the same whichever of its columns are marked and
    whichever comes first. -/

namespace SpannerSchema
namespace Classification

/-- What a group tells of its constraint, by the records and the described columns. -/
structure TellsConstraint (described : List Column) (keys : List KeyUsage) (g : UniqueGroup) : Prop where
  columns : g.columns = ((keys.filter fun k => k.constraint == g.name).map (·.column)).eraseDups
  columns_ne_nil : g.columns ≠ []
  nullFiltered : g.nullFiltered = true ↔ ∃ name ∈ g.columns, (described.find? fun c => c.name == name) = none ∨
    ∃ c, (described.find? fun c => c.name == name) = some c ∧ c.nullable = true

section
variable {columns : List Column} {keys : List KeyUsage} {detail : KeyUsage}

theorem isNullable_iff_find? {name : String} : isNullable columns name = true ↔
    (columns.find? fun c => c.name == name) = none ∨
      ∃ c, (columns.find? fun c => c.name == name) = some c ∧ c.nullable = true := by
  unfold isNullable
  cases columns.find? fun c => c.name == name <;> simp

/-- The group of a constraint that some record names. -/
theorem tellsConstraint_groupOf (h : detail ∈ keys) :
    TellsConstraint columns keys (groupOf columns keys detail.constraint) := by
  constructor
  case columns => rfl
  case columns_ne_nil =>
    have hmember : detail.column ∈ members keys detail.constraint :=
      List.mem_map.mpr ⟨detail, by simpa using h, rfl⟩
    exact List.ne_nil_of_mem (List.mem_eraseDups.mpr hmember)
  case nullFiltered => simp only [groupOf, List.any_eq_true, List.mem_eraseDups, isNullable_iff_find?]

end

/-! ### The groups of a table -/

section
variable {mode mode' : IndexMode} {o o' : ClassifyOptions} {columns columns' sorted sorted' : List Column}
  {keys : List KeyUsage} {b b' : Buckets} (h : classify mode o columns keys {} = (b, .ok sorted))
include h

theorem tellsConstraint_of_mem : ∀ g ∈ b.uniqueGroups, TellsConstraint columns keys g := by
  intro g hg
  rw [uniqueGroups_classify h] at hg
  obtain ⟨detail, hmem, rfl⟩ := exists_eq_groupOf hg
  exact tellsConstraint_groupOf hmem

theorem nodup_names_uniqueGroups : (b.uniqueGroups.map (·.name)).Nodup := by
  have hnames : b.uniqueGroups.map (·.name) = (columns.filterMap (unique? mode keys)).eraseDups := by
    rw [uniqueGroups_classify h, List.map_map]
    exact List.map_id _
  rw [hnames]
  exact FirstSeen.nodup_eraseDups _

theorem exists_group_of_route {c : Column} {detail : KeyUsage} (hc : c ∈ columns)
    (hroute : route mode keys c = .ok (.unique detail)) :
    ∃ g ∈ b.uniqueGroups, g.name = detail.constraint ∧ c.name ∈ g.columns := by
  have hgoes := goes_of_route hroute
  have hbrought : detail.constraint ∈ columns.filterMap (unique? mode keys) :=
    List.mem_filterMap.mpr ⟨c, hc, unique?_eq_some_iff.mpr ⟨detail, hgoes, rfl⟩⟩
  refine ⟨groupOf columns keys detail.constraint, ?_, rfl, List.mem_eraseDups.mpr (mem_members hgoes.1)⟩
  rw [uniqueGroups_classify h]
  exact List.mem_map.mpr ⟨_, List.mem_eraseDups.mpr hbrought, rfl⟩

theorem group_eq_of_name_eq (h' : classify mode' o' columns' keys {} = (b', .ok sorted'))
    (hsame : ∀ k ∈ keys, isNullable columns' k.column = isNullable columns k.column) {g g' : UniqueGroup}
    (hg : g ∈ b.uniqueGroups) (hg' : g' ∈ b'.uniqueGroups) (hname : g'.name = g.name) : g' = g := by
  rw [uniqueGroups_classify h] at hg
  rw [uniqueGroups_classify h'] at hg'
  obtain ⟨constraint, -, rfl⟩ := List.mem_map.mp hg
  obtain ⟨constraint', -, rfl⟩ := List.mem_map.mp hg'
  obtain rfl : constraint' = constraint := hname
  exact groupOf_congr hsame constraint'

/-- Every group of a table is that of its constraint, each constraint has one, and every column that goes to a group is
in it. A table with the same records has the same group for a constraint, however its columns are marked and ordered,
if the columns that the records name may be null in both tables or in neither. -/
theorem tellsConstraint_of_classify :
    (∀ g ∈ b.uniqueGroups, TellsConstraint columns keys g) ∧ (b.uniqueGroups.map (·.name)).Nodup ∧
    (∀ c ∈ columns, ∀ detail, route mode keys c = .ok (.unique detail) →
      ∃ g ∈ b.uniqueGroups, g.name = detail.constraint ∧ c.name ∈ g.columns) ∧
    ∀ mode' o' columns' b' sorted', classify mode' o' columns' keys {} = (b', .ok sorted') →
      (∀ k ∈ keys, isNullable columns' k.column = isNullable columns k.column) →
      ∀ g ∈ b.uniqueGroups, ∀ g' ∈ b'.uniqueGroups, g'.name = g.name → g' = g := by
  refine ⟨tellsConstraint_of_mem h, nodup_names_uniqueGroups h, fun c hc detail => exists_group_of_route h hc, ?_⟩
  intro mode' o' columns' b' sorted' h' hsame g hg g' hg' hname
  exact group_eq_of_name_eq h h' hsame hg hg' hname

end

/-- Beds of a hut: no two share a room and a number, and a guest has one bed. -/
def beds : List Column :=
  [{ name := "room", type := "int", nullable := false, key := some "UNI" },
   { name := "number", type := "int", nullable := false, key := some "MUL" },
   { name := "guest", type := "int", key := some "UNI" }]

/-- The records of both constraints in turns. One repeats a column, and one names a column that is not described. -/
def bedKeys : List KeyUsage :=
  [{ table := "beds", column := "number", constraint := "spot" }, { table := "beds", column := "guest", constraint := "one" },
   { table := "beds", column := "room", constraint := "spot" }, { table := "beds", column := "number", constraint := "spot" },
   { table := "beds", column := "hut", constraint := "spot" }]

/-- The same beds in another order, and the room without its mark. -/
def bedsReordered : List Column := (beds.map fun c => if c.name = "room" then { c with key := none } else c).reverse

theorem tellsConstraint_of_classify_beds :
    ∃ b b' sorted sorted', classify .unique {} beds bedKeys {} = (b, .ok sorted) ∧
      classify .unique {} bedsReordered bedKeys {} = (b', .ok sorted') ∧
      b.uniqueGroups = [⟨"spot", ["number", "room", "hut"], true⟩, ⟨"one", ["guest"], true⟩] ∧
      (∀ g ∈ b.uniqueGroups, TellsConstraint beds bedKeys g) ∧
      ∀ g ∈ b.uniqueGroups, ∀ g' ∈ b'.uniqueGroups, g'.name = g.name → g' = g := by
  have h : classify .unique {} beds bedKeys {} =
      ({ primaryKeys := ["id"]
         uniqueGroups := [⟨"spot", ["number", "room", "hut"], true⟩, ⟨"one", ["guest"], true⟩] },
        .ok (Column.synthesized "id" :: beds)) := by decide +kernel
  have h' : classify .unique {} bedsReordered bedKeys {} =
      ({ primaryKeys := ["id"]
         uniqueGroups := [⟨"one", ["guest"], true⟩, ⟨"spot", ["number", "room", "hut"], true⟩] },
        .ok (Column.synthesized "id" :: bedsReordered)) := by decide +kernel
  obtain ⟨htells, -, -, hsame⟩ := tellsConstraint_of_classify h
  exact ⟨_, _, _, _, h, h', rfl, htells, hsame _ _ _ _ _ h' (by decide +kernel)⟩

end Classification
end SpannerSchema

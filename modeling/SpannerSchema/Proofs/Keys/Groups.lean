import Mathlib.Data.List.Induction
import Mathlib.Data.List.Nodup
import SpannerSchema.Proofs.Keys.Sorting

/-! The unique groups of a table after a sort. A group is made when its constraint is first met, with all columns that
    the records give to the constraint, and the column that brings a record of the constraint is one of these. So no
    later column changes the group, and a group is told by the records and the described columns alone: which of its
    columns came first, and how many of them were marked, does not show. -/

namespace SpannerSchema

/-! ### Names without repetitions -/

namespace FirstSeen

variable {names : List String} {name : String}

theorem eraseDups_concat (names : List String) (name : String) :
    (names ++ [name]).eraseDups = if name ∈ names then names.eraseDups else names.eraseDups ++ [name] := by
  have hone : [name].eraseDups = [name] := rfl
  rw [List.eraseDups_append]
  split
  · next h => simp [List.removeAll, h]
  · next h => simp [List.removeAll, h, hone]

theorem nodup_eraseDups (names : List String) : names.eraseDups.Nodup := by
  induction names using List.reverseRecOn with
  | nil => exact List.nodup_nil
  | append_singleton names name ih =>
    rw [eraseDups_concat]
    split
    · exact ih
    · next h => exact List.Nodup.append ih (List.nodup_singleton name) (by simpa using h)

theorem eraseDups_of_nodup (h : names.Nodup) : names.eraseDups = names := by
  induction names using List.reverseRecOn with
  | nil => rfl
  | append_singleton names name ih =>
    obtain ⟨hnames, -, hnew⟩ := List.nodup_append.mp h
    have hname : name ∉ names := fun hmem => hnew name hmem name (by simp) rfl
    rw [eraseDups_concat, if_neg hname, ih hnames]

end FirstSeen

open FirstSeen

namespace UniqueGroup

variable {g : UniqueGroup} {held : List String}

theorem columns_insert (h : g.columns = held.eraseDups) (c : String) :
    (g.insert c).columns = (held ++ [c]).eraseDups := by
  rw [eraseDups_concat, insert]
  simp only [h, List.mem_eraseDups]
  split <;> simp [h]

theorem columns_insertAll (h : g.columns = held.eraseDups) (cs : List String) :
    (g.insertAll cs).columns = (held ++ cs).eraseDups := by
  induction cs generalizing g held with
  | nil => simpa [insertAll] using h
  | cons c cs ih => simpa [insertAll] using ih (columns_insert h c)

theorem name_insertAll (g : UniqueGroup) (cs : List String) : (g.insertAll cs).name = g.name := by
  induction cs generalizing g with
  | nil => rfl
  | cons c cs ih => exact (ih (g.insert c)).trans (name_insert g c)

theorem insert_of_mem {c : String} (h : c ∈ g.columns) : g.insert c = g := if_pos h

end UniqueGroup

/-- The column without its marker. -/
def Column.withoutMarker (c : Column) : Column := { c with key := none }

namespace Classification

variable {mode : IndexMode} {columns columns' todo : List Column} {keys : List KeyUsage} {b b' : Buckets} {c : Column}
  {names : List String} {detail : KeyUsage}

/-! ### One group -/

/-- The group of a constraint: all columns that the records give to it, in the order of the records, with rows left out
if one of them may be null. -/
def groupOf (columns : List Column) (keys : List KeyUsage) (constraint : String) : UniqueGroup where
  name := constraint
  columns := (members keys constraint).eraseDups
  nullFiltered := (members keys constraint).any (isNullable columns)

/-- What a column gives to the unique groups: the constraint of its first record. -/
def unique? (mode : IndexMode) (keys : List KeyUsage) (c : Column) : Option String :=
  match KeyUsage.firstFor? keys c.name with
  | none => none
  | some detail =>
    if c.key = some "UNI" ∨ c.key = some "MUL" ∧ mode = .unique ∧ detail.isForeign = false then some detail.constraint
    else none

/-- A column brings the constraint of the record by which it goes to a group. -/
theorem unique?_eq_some_iff {constraint : String} : unique? mode keys c = some constraint ↔
    ∃ detail, Goes mode keys c (.unique detail) ∧ detail.constraint = constraint := by
  unfold unique?
  constructor
  · intro h
    split at h
    · cases h
    · next detail hf =>
      split at h
      · next hway => exact ⟨detail, ⟨hf, hway⟩, Option.some.inj h⟩
      · cases h
  · rintro ⟨detail, ⟨hf, hway⟩, rfl⟩
    rw [hf]
    exact if_pos hway

/-- A group that columns bring is that of the constraint of a record. -/
theorem exists_eq_groupOf {g : UniqueGroup}
    (hg : g ∈ (columns'.filterMap (unique? mode keys)).eraseDups.map (groupOf columns keys)) :
    ∃ detail ∈ keys, g = groupOf columns keys detail.constraint := by
  obtain ⟨constraint, hbrought, rfl⟩ := List.mem_map.mp hg
  obtain ⟨c, -, hc⟩ := List.mem_filterMap.mp (List.mem_eraseDups.mp hbrought)
  obtain ⟨detail, ⟨hf, -⟩, rfl⟩ := unique?_eq_some_iff.mp hc
  exact ⟨detail, List.mem_of_find?_eq_some hf, rfl⟩

theorem mem_members (h : KeyUsage.firstFor? keys c.name = some detail) : c.name ∈ members keys detail.constraint := by
  have hmem : detail ∈ keys := List.mem_of_find?_eq_some h
  exact List.mem_map.mpr ⟨detail, by simpa using hmem, KeyUsage.column_of_firstFor? h⟩

/-- A group with the columns of its constraint, once it is flagged, is the group of the constraint. -/
theorem flagged_eq_groupOf {g : UniqueGroup} {constraint : String} (hname : g.name = constraint)
    (hcolumns : g.columns = (members keys constraint).eraseDups) :
    { g with nullFiltered := g.columns.any (isNullable columns) } = groupOf columns keys constraint := by
  have hany : (members keys constraint).eraseDups.any (isNullable columns)
      = (members keys constraint).any (isNullable columns) := by
    rw [Bool.eq_iff_iff]
    simp only [List.any_eq_true, List.mem_eraseDups]
  rw [groupOf, hname, hcolumns, hany]

/-- A marker does not tell whether a column may be null. -/
theorem isNullable_map_withoutMarker (columns : List Column) :
    isNullable (columns.map Column.withoutMarker) = isNullable columns := by
  funext name
  unfold isNullable
  rw [List.find?_map]
  have hname : ((fun c : Column => c.name == name) ∘ Column.withoutMarker) = fun c => c.name == name := rfl
  rw [hname]
  cases columns.find? fun c => c.name == name <;> rfl

theorem groupOf_congr (h : ∀ k ∈ keys, isNullable columns' k.column = isNullable columns k.column) (constraint : String) :
    groupOf columns' keys constraint = groupOf columns keys constraint := by
  have hany : (members keys constraint).any (isNullable columns') = (members keys constraint).any (isNullable columns) := by
    rw [Bool.eq_iff_iff, List.any_eq_true, List.any_eq_true]
    refine exists_congr fun name => and_congr_right fun hname => ?_
    obtain ⟨k, hk, rfl⟩ := List.mem_map.mp hname
    rw [h k (List.mem_filter.mp hk).1]
  rw [groupOf, groupOf, hany]

theorem isSome_group? (hb : b.uniqueGroups = names.eraseDups.map (groupOf columns keys)) (constraint : String) :
    (b.group? constraint).isSome = true ↔ constraint ∈ names := by
  unfold Buckets.group?
  rw [hb, List.find?_isSome]
  constructor
  · rintro ⟨g, hg, hname⟩
    obtain ⟨name, hmem, rfl⟩ := List.mem_map.mp hg
    obtain rfl : name = constraint := beq_iff_eq.mp hname
    exact List.mem_eraseDups.mp hmem
  · intro hmem
    exact ⟨groupOf columns keys constraint, List.mem_map.mpr ⟨constraint, List.mem_eraseDups.mpr hmem, rfl⟩,
      beq_iff_eq.mpr rfl⟩

/-! ### One column -/

/-- A column that brings a record of a constraint adds the group of the constraint, unless that is there. -/
theorem uniqueGroups_addUnique (hb : b.uniqueGroups = names.eraseDups.map (groupOf columns keys))
    (hf : KeyUsage.firstFor? keys c.name = some detail) :
    (addUnique columns keys b detail c.name).uniqueGroups
      = (names ++ [detail.constraint]).eraseDups.map (groupOf columns keys) := by
  have hmember := List.mem_eraseDups.mpr (mem_members hf)
  have hsome := isSome_group? hb detail.constraint
  rw [eraseDups_concat]
  unfold addUnique Buckets.modifyGroup
  cases hg : b.group? detail.constraint with
  | some g =>
    rw [hg] at hsome
    rw [if_pos (hsome.mp rfl), hb]
    dsimp only [Option.isSome_some, if_true]
    rw [List.map_map]
    refine List.map_congr_left fun name _ => ?_
    by_cases hname : name = detail.constraint
    · -- The column is one of those that the group started with.
      have hinsert : ((groupOf columns keys name).insertAll []).insert c.name = groupOf columns keys name :=
        UniqueGroup.insert_of_mem (hname ▸ hmember)
      simp only [Function.comp_apply, groupOf, hname, beq_self_eq_true, if_true] at hinsert ⊢
      rw [hinsert]
      exact flagged_eq_groupOf rfl rfl
    · simp [groupOf, hname]
  | none =>
    rw [hg] at hsome
    -- The records give the column to its constraint, so it adds nothing to a new group either.
    have hnew : detail.constraint ∉ names := fun hmem => by simpa using hsome.mpr hmem
    rw [if_neg hnew, List.map_append, ← hb]
    have hempty : ({ name := detail.constraint } : UniqueGroup).columns = ([] : List String).eraseDups := rfl
    have hcolumns := UniqueGroup.columns_insertAll hempty (members keys detail.constraint)
    rw [List.nil_append] at hcolumns
    have hinsert := UniqueGroup.insert_of_mem (hcolumns ▸ hmember)
    dsimp only [Option.isSome_none, Bool.false_eq_true, if_false]
    rw [if_neg (by simp), hinsert, flagged_eq_groupOf (UniqueGroup.name_insertAll _ _) hcolumns]
    rfl

/-- What a column adds to the groups: the group of the constraint that it brings, unless that is there. -/
theorem uniqueGroups_follow {way : Route} (hb : b.uniqueGroups = names.eraseDups.map (groupOf columns keys))
    (hgoes : Goes mode keys c way) : (follow columns keys b c way).uniqueGroups
      = (names ++ (unique? mode keys c).toList).eraseDups.map (groupOf columns keys) := by
  have hother (hnone : unique? mode keys c = none) :
      b.uniqueGroups = (names ++ (unique? mode keys c).toList).eraseDups.map (groupOf columns keys) := by
    rw [hnone, Option.toList_none, List.append_nil]
    exact hb
  cases way with
  | nowhere =>
    refine hother ?_
    unfold unique?
    cases KeyUsage.firstFor? keys c.name with
    | none => rfl
    | some detail => rcases hgoes with hk | hk <;> simp [hk]
  | primary =>
    refine hother ?_
    unfold unique?
    cases KeyUsage.firstFor? keys c.name with
    | none => rfl
    | some detail => simp [show c.key = some "PRI" from hgoes]
  | foreign detail =>
    obtain ⟨hk, hf, hd⟩ := hgoes
    exact hother (by simp [unique?, hf, hk, hd])
  | secondary =>
    refine hother ?_
    rcases hgoes.2 with hf | ⟨rfl, detail, hf, hd⟩
    · simp [unique?, hf]
    · simp [unique?, hf, hgoes.1]
  | unique detail =>
    rw [unique?_eq_some_iff.mpr ⟨detail, hgoes, rfl⟩]
    exact uniqueGroups_addUnique hb hgoes.1

/-! ### All columns -/

/-- The groups after a sort are those of the constraints that the columns bring, in the order in which each is first
met. -/
theorem uniqueGroups_placeAll (hb : b.uniqueGroups = names.eraseDups.map (groupOf columns keys))
    (h : placeAll mode columns keys b todo = (b', none)) :
    b'.uniqueGroups = (names ++ todo.filterMap (unique? mode keys)).eraseDups.map (groupOf columns keys) := by
  induction todo generalizing b names with
  | nil =>
    obtain ⟨rfl, -⟩ := Prod.mk.inj h
    simpa using hb
  | cons c todo ih =>
    rw [placeAll] at h
    cases hc : place mode columns keys b c with
    | error e =>
      rw [hc] at h
      cases h
    | ok b₁ =>
      rw [hc] at h
      obtain ⟨way, hgoes, rfl⟩ := place_eq_ok hc
      rw [ih (uniqueGroups_follow hb hgoes) h, List.append_assoc]
      cases hu : unique? mode keys c <;> simp [hu]

/-- The groups of a table sorted from the start: those of the constraints that its columns bring, in the order in which
each is first met. -/
theorem uniqueGroups_classify {o : ClassifyOptions} {sorted : List Column}
    (h : classify mode o columns keys {} = (b, .ok sorted)) :
    b.uniqueGroups = (columns.filterMap (unique? mode keys)).eraseDups.map (groupOf columns keys) := by
  obtain ⟨b₁, hplaced, rfl, -⟩ := classify_eq_ok h
  have hempty : ({} : Buckets).uniqueGroups = ([] : List String).eraseDups.map (groupOf columns keys) := rfl
  have hgroups := uniqueGroups_placeAll hempty hplaced
  -- The key that a table is given changes no group.
  split <;> exact hgroups

end Classification
end SpannerSchema

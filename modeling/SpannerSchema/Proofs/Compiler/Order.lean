import SpannerSchema.Proofs.Compiler.FirstFault
import SpannerSchema.Proofs.Ddl.Decoding

/-! The order of the described columns. Where names are distinct, what is looked up for a column does not depend on the
    order of the others: its fault, its target, and whether it may be null as a member of a group. So two orders of the
    same columns are accepted or refused together, and they bring the same things to the statements, each statement's
    parts in the order of its columns. -/

namespace SpannerSchema

namespace Classification

variable {columns columns' : List Column}

theorem isNullable_iff (hd : (columns.map (·.name)).Nodup) {name : String} :
    isNullable columns name = true ↔ ∀ c ∈ columns, c.name = name → c.nullable = true := by
  unfold isNullable
  cases hf : columns.find? fun c => c.name == name with
  | none =>
    have hnone := List.find?_eq_none.mp hf
    exact ⟨fun _ c hc hname => absurd (beq_iff_eq.mpr hname) (hnone c hc), fun _ => rfl⟩
  | some first =>
    have hmem := List.mem_of_find?_eq_some hf
    have hfirst : first.name = name := by simpa using List.find?_some hf
    refine ⟨fun hn c hc hname => ?_, fun h => h first hmem hfirst⟩
    rw [List.inj_on_of_nodup_map hd hc hmem (hname.trans hfirst.symm)]
    exact hn

section
variable (hp : columns'.Perm columns)
include hp

theorem groupOf_perm (hd : (columns.map (·.name)).Nodup) (keys : List KeyUsage) :
    groupOf columns' keys = groupOf columns keys := by
  have hd' : (columns'.map (·.name)).Nodup := (hp.map (·.name)).nodup_iff.mpr hd
  have hnullable : isNullable columns' = isNullable columns := by
    funext name
    rw [Bool.eq_iff_iff, isNullable_iff hd', isNullable_iff hd]
    simp only [hp.mem_iff]
  funext constraint
  rw [groupOf, groupOf, hnullable]

theorem hasPrimary_perm : hasPrimary columns' = hasPrimary columns := by
  rw [Bool.eq_iff_iff, hasPrimary_iff, hasPrimary_iff]
  simp only [hp.mem_iff]

theorem withKey_perm (idName : String) : (withKey columns' idName).Perm (withKey columns idName) := by
  have hany : (columns'.any fun c => c.name == idName) = columns.any fun c => c.name == idName := by
    rw [Bool.eq_iff_iff, List.any_eq_true, List.any_eq_true]
    simp only [hp.mem_iff]
  unfold withKey
  rw [hany]
  split
  · exact hp
  · exact hp.cons _

end
end Classification

theorem FirstSeen.eraseDups_perm {names names' : List String} (hp : names'.Perm names) :
    names'.eraseDups.Perm names.eraseDups := by
  refine (List.perm_ext_iff_of_nodup (nodup_eraseDups names') (nodup_eraseDups names)).mpr fun name => ?_
  rw [List.mem_eraseDups, List.mem_eraseDups, hp.mem_iff]

namespace CompileRequest
open Classification Ddl

variable {mode : IndexMode} {r : CompileRequest} {columns' : List Column} {p p' : TableParts}

/-- What is shown of a column that has a target. -/
def shown? (c : Column) : Option (String × String × Bool × Option String) :=
  (SourceType.toTarget c.type c.initial).toOption.map fun t => (c.name, t.fragment, c.nullable, t.options)

theorem shown_of_declares {cs : List Column} {ds : List CompiledColumn} (h : List.Forall₂ Declares cs ds) :
    ds.map shown = cs.filterMap shown? := by
  induction h with
  | nil => rfl
  | @cons c d cs ds hd _ ih =>
    have hc : shown? c = some (shown d) := by
      rw [shown?, hd.target, shown, hd.name, hd.nullable]
      rfl
    rw [List.map_cons, List.filterMap_cons_some hc, ih]

section
variable (hp : columns'.Perm r.columns)
include hp

theorem allColumns_perm : ({ r with columns := columns' } : CompileRequest).allColumns.Perm r.allColumns := by
  unfold allColumns
  dsimp only
  rw [hasPrimary_perm hp]
  split
  · exact hp
  · exact withKey_perm hp r.idName

theorem firstFault?_perm :
    ({ r with columns := columns' } : CompileRequest).firstFault? = none ↔ r.firstFault? = none := by
  rw [firstFault?_eq_none_iff, firstFault?_eq_none_iff]
  dsimp only
  rw [hasPrimary_perm hp]
  simp only [hp.mem_iff]

end

/-! ### Reordered tables -/

/-- Two outcomes `s` and `s'` for a table, made of the parts `p` and `p'`, that differ in nothing but order. -/
structure SameButOrder (r : CompileRequest) (s s' : Schema) (p p' : TableParts) : Prop where
  table : s.tables = [createTable r.terminated r.table p.columns p.keys.primaryKeys]
  table' : s'.tables = [createTable r.terminated r.table p'.columns p'.keys.primaryKeys]
  columns : (p'.columns.map shown).Perm (p.columns.map shown)
  primaryKeys : p'.keys.primaryKeys.Perm p.keys.primaryKeys
  indexes : s'.indexes.Perm s.indexes
  constraints : s'.constraints.Perm s.constraints

section
variable (hd : (r.columns.map (·.name)).Nodup) (hp : columns'.Perm r.columns) (hr : r.parts mode = .ok p)
  (hr' : ({ r with columns := columns' } : CompileRequest).parts mode = .ok p')
include hp hr hr'

theorem columns_perm : (p'.columns.map shown).Perm (p.columns.map shown) := by
  rw [shown_of_declares (declares_parts hr'), shown_of_declares (declares_parts hr)]
  exact (allColumns_perm hp).filterMap shown?

theorem primaryKeys_perm : p'.keys.primaryKeys.Perm p.keys.primaryKeys := by
  rw [primaryKeys_parts hr', primaryKeys_parts hr]
  dsimp only
  rw [hasPrimary_perm hp]
  split
  · exact hp.filterMap primary?
  · exact .refl _

theorem foreignKeys_perm : p'.keys.foreignKeys.Perm p.keys.foreignKeys := by
  rw [foreignKeys_parts hr', foreignKeys_parts hr]
  exact hp.filterMap (foreign? r.keys)

theorem secondaryIndexes_perm : p'.keys.secondaryIndexes.Perm p.keys.secondaryIndexes := by
  rw [secondaryIndexes_parts hr', secondaryIndexes_parts hr]
  exact hp.filterMap (secondary? mode r.keys)

include hd in
theorem uniqueGroups_perm : p'.keys.uniqueGroups.Perm p.keys.uniqueGroups := by
  rw [uniqueGroups_parts hr', uniqueGroups_parts hr]
  dsimp only
  rw [groupOf_perm hp hd]
  exact (FirstSeen.eraseDups_perm (hp.filterMap (unique? mode r.keys))).map _

end

/-- Whether a table with distinct columns is accepted does not depend on their order, and neither does what it is made
of: its rendered columns, its keys, and the text of each index and of each foreign key. -/
theorem compile_reordered (c : Compiler) (hd : (r.columns.map (·.name)).Nodup) (hp : columns'.Perm r.columns) :
    (∃ s s' p p', (c.compile r).2 = .ok s ∧ (c.compile { r with columns := columns' }).2 = .ok s' ∧
      r.parts c.mode = .ok p ∧ ({ r with columns := columns' } : CompileRequest).parts c.mode = .ok p' ∧
      SameButOrder r s s' p p') ∨
    ∃ e e', (c.compile r).2 = .error e ∧ (c.compile { r with columns := columns' }).2 = .error e' := by
  have hiff := firstFault?_perm hp
  rw [← failure?_parts c.mode, ← failure?_parts c.mode, failure?_eq_none_iff, failure?_eq_none_iff] at hiff
  rw [Compiler.compile_snd, Compiler.compile_snd, compileTable_eq_parts, compileTable_eq_parts]
  cases hr : r.parts c.mode with
  | ok p =>
    obtain ⟨p', hr'⟩ := hiff.mpr ⟨p, hr⟩
    rw [hr']
    refine Or.inl ⟨_, _, p, p', rfl, rfl, rfl, rfl, ?_⟩
    constructor
    case table => rfl
    case table' => rfl
    case columns => exact columns_perm hp hr hr'
    case primaryKeys => exact primaryKeys_perm hp hr hr'
    case indexes =>
      exact ((uniqueGroups_perm hd hp hr hr').map _).append ((secondaryIndexes_perm hp hr hr').map _)
    case constraints => exact (foreignKeys_perm hp hr hr').map _
  | error e =>
    -- If the other order were accepted, this one would be.
    cases hr' : ({ r with columns := columns' } : CompileRequest).parts c.mode with
    | error e' => exact Or.inr ⟨e, e', rfl, rfl⟩
    | ok p' =>
      obtain ⟨p, hp'⟩ := hiff.mp ⟨p', hr'⟩
      rw [hr] at hp'
      cases hp'

/-- A table with a composite unique constraint that either of its columns may bring, an index and a foreign key. -/
def seats : CompileRequest where
  table := "seats"
  columns := [{ name := "row", type := "int", key := some "MUL" },
              { name := "id", type := "int", nullable := false, key := some "PRI" },
              { name := "hall", type := "int", nullable := false, key := some "UNI" },
              { name := "shade", type := "char(6)", key := some "MUL" },
              { name := "owner", type := "int", key := some "MUL" }]
  keys := [{ table := "seats", column := "hall", constraint := "place" },
           { table := "seats", column := "row", constraint := "place" },
           { table := "seats", column := "owner", constraint := "owned", referencedTable := some "people",
             referencedColumn := some "id" }]

theorem compile_reordered_seats :
    (seats.columns.map (·.name)).Nodup ∧ seats.columns.reverse.Perm seats.columns ∧
    ∃ s s' p p', (({} : Compiler).compile seats).2 = .ok s ∧
      (({} : Compiler).compile { seats with columns := seats.columns.reverse }).2 = .ok s' ∧
      SameButOrder seats s s' p p' := by
  have hd : (seats.columns.map (·.name)).Nodup := by decide
  have hp : seats.columns.reverse.Perm seats.columns := List.reverse_perm _
  refine ⟨hd, hp, ?_⟩
  have hs : (({} : Compiler).compile seats).2.toOption.isSome = true := by decide +kernel
  rcases compile_reordered {} hd hp with ⟨s, s', p, p', h, h', -, -, hsame⟩ | ⟨e, -, he, -⟩
  · exact ⟨s, s', p, p', h, h', hsame⟩
  · rw [he] at hs
    cases hs

end CompileRequest
end SpannerSchema

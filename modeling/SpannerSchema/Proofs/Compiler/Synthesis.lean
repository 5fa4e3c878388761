import SpannerSchema.Proofs.Compiler.Parts

/-! The key that a table is given. A table whose columns have no primary key is sorted without one, and its key is added
    when all columns are in their place: a new column before the others, or a described column of the usual name. It
    comes to the same as a table in which that column was described as the key from the start. The sort looks for the
    records of columns in other indexes only, so a key column brings nothing to these, and no group changes its flag,
    because no record names a new column and a marker is not read for the flag. -/

namespace SpannerSchema

namespace Column

/-- The column as it is described when it is the primary key. -/
def asPrimary (c : Column) : Column := { c with key := some KeyMarker.primary.text }

/-- A column that has its place without a record: it has no marker or is in the primary key. -/
def Settled (c : Column) : Prop := c.key = none ∨ c.key = some "" ∨ c.key = some "PRI"

instance (c : Column) : Decidable c.Settled := inferInstanceAs (Decidable (_ ∨ _ ∨ _))

end Column

/-! ### What markers do not tell -/

theorem compileColumns_map_withoutMarker (cs : List Column) :
    compileColumns (cs.map Column.withoutMarker) = compileColumns cs := by
  induction cs with
  | nil => rfl
  | cons c cs ih =>
    rw [List.map_cons, compileColumns, compileColumns, ih, List.isEmpty_map]
    rfl

namespace Classification

variable {mode : IndexMode} {columns columns' : List Column} {keys : List KeyUsage} {c : Column}

/-! ### Columns that bring nothing to an index -/

/-- The columns that are searched for among the records, or at fault. What the sort brings to the indexes and to the
foreign keys, it brings of these. -/
def searched (columns : List Column) : List Column := columns.filter fun c => ¬c.Settled

theorem searched_cons_of_settled (h : c.Settled) : searched (c :: columns) = searched columns :=
  List.filter_cons_of_neg fun hc => of_decide_eq_true hc h

theorem searched_append (columns columns' : List Column) :
    searched (columns ++ columns') = searched columns ++ searched columns' := List.filter_append columns columns'

theorem filterMap_searched {β : Type} {f : Column → Option β} (h : ∀ c : Column, c.Settled → f c = none)
    (columns : List Column) : (searched columns).filterMap f = columns.filterMap f := by
  induction columns with
  | nil => rfl
  | cons c columns ih =>
    by_cases hc : c.Settled
    · rw [searched_cons_of_settled hc, List.filterMap_cons_none (h c hc), ih]
    · have hcons : searched (c :: columns) = c :: searched columns := List.filter_cons_of_pos (decide_eq_true hc)
      rw [hcons, List.filterMap_cons, List.filterMap_cons, ih]

theorem fault?_of_settled (keys : List KeyUsage) (h : c.Settled) : fault? keys c = none := by
  rcases h with h | h | h <;> simp [fault?, h]

theorem not_indexed_of_settled (h : c.Settled) : ¬c.Indexed := by
  rcases h with h | h | h <;> simp [Column.Indexed, h]

theorem foreign?_of_not_indexed (keys : List KeyUsage) (h : ¬c.Indexed) : foreign? keys c = none :=
  if_neg fun hk => h (Or.inr hk)

theorem secondary?_of_not_indexed (mode : IndexMode) (keys : List KeyUsage) (h : ¬c.Indexed) :
    secondary? mode keys c = none :=
  if_neg fun hk => h (Or.inr hk)

theorem unique?_of_not_indexed (mode : IndexMode) (keys : List KeyUsage) (h : ¬c.Indexed) :
    unique? mode keys c = none := by
  unfold unique?
  split
  · rfl
  · refine if_neg ?_
    rintro (hk | ⟨hk, -⟩)
    · exact h (Or.inl hk)
    · exact h (Or.inr hk)

theorem filterMap_primary?_eq_nil (h : ∀ c ∈ columns, c.key ≠ some "PRI") : columns.filterMap primary? = [] := by
  rw [List.filterMap_eq_nil_iff]
  exact fun c hc => if_neg (h c hc)

theorem findSome?_fault?_searched (keys : List KeyUsage) (columns : List Column) :
    (searched columns).findSome? (fault? keys) = columns.findSome? (fault? keys) := by
  rw [← List.head?_filterMap, ← List.head?_filterMap, filterMap_searched fun c hc => fault?_of_settled keys hc]

end Classification

namespace CompileRequest
open Classification

variable {r r' : CompileRequest} {mode : IndexMode}

/-! ### The key described and not described -/

/-- A request `r'` that describes the key which the request `r` is given: the tables have the same columns that are
searched for, the same columns to declare, and the same nulls under the names of their records. -/
structure Describes (r' r : CompileRequest) : Prop where
  keys : r'.keys = r.keys
  searched : searched r'.columns = searched r.columns
  primary : r'.columns.filterMap primary? = [r.idName]
  nullable : ∀ k ∈ r.keys, isNullable r'.columns k.column = isNullable r.columns k.column
  declared : compileColumns r'.columns = compileColumns r.allColumns

theorem Describes.hasPrimary (h : Describes r' r) : hasPrimary r'.columns = true := by
  have hmem : r.idName ∈ r'.columns.filterMap primary? := h.primary ▸ List.mem_singleton_self _
  obtain ⟨c, hc, hname⟩ := List.mem_filterMap.mp hmem
  refine hasPrimary_iff.mpr ⟨c, hc, ?_⟩
  by_contra hkey
  rw [primary?, if_neg hkey] at hname
  cases hname

theorem Describes.keysBrought_eq (h : Describes r' r) (hnone : Classification.hasPrimary r.columns = false) :
    r'.keysBrought mode = r.keysBrought mode := by
  have hcollected {β : Type} {f : Column → Option β} (hf : ∀ c : Column, c.Settled → f c = none) :
      r'.columns.filterMap f = r.columns.filterMap f := by
    rw [← filterMap_searched hf r'.columns, h.searched, filterMap_searched hf]
  have hforeign := hcollected fun c hc => foreign?_of_not_indexed r.keys (not_indexed_of_settled hc)
  have hsecondary := hcollected fun c hc => secondary?_of_not_indexed mode r.keys (not_indexed_of_settled hc)
  have hunique := hcollected fun c hc => unique?_of_not_indexed mode r.keys (not_indexed_of_settled hc)
  have hgroups : groupOf r'.columns r.keys = groupOf r.columns r.keys := funext (groupOf_congr h.nullable)
  simp only [keysBrought, h.keys, h.hasPrimary, hnone, h.primary, hforeign, hsecondary, hunique, hgroups, if_true,
    Bool.false_eq_true, if_false]

/-- A table that is given its key comes to the same as one that has it. -/
theorem Describes.parts_eq (h : Describes r' r) (hnone : Classification.hasPrimary r.columns = false)
    (hs : r.synthesis = true) : r'.parts mode = r.parts mode := by
  have hfault : r'.columns.findSome? (fault? r'.keys) = r.columns.findSome? (fault? r.keys) := by
    rw [← findSome?_fault?_searched, h.searched, findSome?_fault?_searched, h.keys]
  have hall : r'.allColumns = r'.columns := if_pos h.hasPrimary
  rw [CompileRequest.parts_eq, CompileRequest.parts_eq, hfault, if_neg (by simp [h.hasPrimary]), if_neg (by simp [hs]),
    hall, h.declared, h.keysBrought_eq hnone]

theorem describes_synthesized (synthesis : Bool) (hkey : ∀ x ∈ r.columns, x.key ≠ some "PRI")
    (hname : ∀ x ∈ r.columns, x.name ≠ r.idName) (hrecord : ∀ k ∈ r.keys, k.column ≠ r.idName) :
    Describes { r with columns := Column.synthesized r.idName :: r.columns, synthesis := synthesis } r := by
  have hnone : Classification.hasPrimary r.columns = false := hasPrimary_eq_false_iff.mpr hkey
  constructor
  case keys => rfl
  case searched => exact searched_cons_of_settled (Or.inr (Or.inr rfl))
  case primary =>
    have hkeyed : primary? (Column.synthesized r.idName) = some r.idName := rfl
    rw [List.filterMap_cons_some hkeyed, filterMap_primary?_eq_nil hkey]
  case nullable =>
    -- No record leads to the new column, so no group sees that it takes no nulls.
    intro k hk
    have hne : ((Column.synthesized r.idName).name == k.column) = false :=
      beq_eq_false_iff_ne.mpr fun h => hrecord k hk h.symm
    simp only [isNullable, List.find?_cons, hne]
  case declared =>
    have hnew : (r.columns.any fun c => c.name == r.idName) = false := by
      rw [List.any_eq_false]
      exact fun x hx => by simpa using hname x hx
    rw [allColumns, hnone, withKey, hnew]
    rfl

theorem describes_asPrimary (synthesis : Bool) {before after : List Column} {x : Column}
    (hkey : ∀ x ∈ r.columns, x.key ≠ some "PRI") (hr : r.columns = before ++ x :: after) (hname : x.name = r.idName)
    (hx : x.key = none ∨ x.key = some "") :
    Describes { r with columns := before ++ x.asPrimary :: after, synthesis := synthesis } r := by
  have hmarkers : (before ++ x.asPrimary :: after).map Column.withoutMarker = r.columns.map Column.withoutMarker := by
    rw [hr, List.map_append, List.map_append, List.map_cons, List.map_cons]
    rfl
  constructor
  case keys => rfl
  case searched =>
    have hunmarked : x.Settled := by
      rcases hx with h | h
      · exact Or.inl h
      · exact Or.inr (Or.inl h)
    have hkeyed : x.asPrimary.Settled := Or.inr (Or.inr rfl)
    rw [hr, searched_append, searched_append, searched_cons_of_settled hunmarked, searched_cons_of_settled hkeyed]
  case primary =>
    have hbefore := filterMap_primary?_eq_nil fun y (hy : y ∈ before) => hkey y (by simp [hr, hy])
    have hafter := filterMap_primary?_eq_nil fun y (hy : y ∈ after) => hkey y (by simp [hr, hy])
    have hkeyed : primary? x.asPrimary = some r.idName := congrArg some hname
    rw [List.filterMap_append, hbefore, List.nil_append, List.filterMap_cons_some hkeyed, hafter]
  case nullable =>
    -- The new marker does not show in what a group looks up.
    intro k _
    rw [← isNullable_map_withoutMarker r.columns, ← hmarkers, isNullable_map_withoutMarker]
  case declared =>
    have hnone : Classification.hasPrimary r.columns = false := hasPrimary_eq_false_iff.mpr hkey
    have hnamed : (r.columns.any fun c => c.name == r.idName) = true :=
      List.any_eq_true.mpr ⟨x, by simp [hr], beq_iff_eq.mpr hname⟩
    have hall : r.allColumns = r.columns := by
      rw [allColumns, hnone, withKey, hnamed]
      rfl
    rw [hall, ← compileColumns_map_withoutMarker r.columns, ← hmarkers, compileColumns_map_withoutMarker]

/-- A table that has no primary key and may be given one comes to what it comes to when the key is described: as a new
column before the others, if no column and no record has the usual name, and else as the column of that name, if that
has no marker. -/
theorem compile_synthesized (c : Compiler) (hkey : ∀ x ∈ r.columns, x.key ≠ some "PRI") (hs : r.synthesis = true) :
    ((∀ x ∈ r.columns, x.name ≠ r.idName) → (∀ k ∈ r.keys, k.column ≠ r.idName) → ∀ synthesis,
      c.compile { r with columns := Column.synthesized r.idName :: r.columns, synthesis := synthesis } = c.compile r) ∧
    ∀ before x after, r.columns = before ++ x :: after → x.name = r.idName → x.key = none ∨ x.key = some "" →
      ∀ synthesis, c.compile { r with columns := before ++ x.asPrimary :: after, synthesis := synthesis } = c.compile r := by
  have hnone : Classification.hasPrimary r.columns = false := hasPrimary_eq_false_iff.mpr hkey
  constructor
  · intro hname hrecord synthesis
    have hdescribes := describes_synthesized synthesis hkey hname hrecord
    exact compile_congr c rfl rfl (hdescribes.parts_eq hnone hs)
  · intro before x after hr hname hx synthesis
    have hdescribes := describes_asPrimary synthesis hkey hr hname hx
    exact compile_congr c rfl rfl (hdescribes.parts_eq hnone hs)

/-- A table without a primary key, with a unique constraint on two columns. -/
def notes : CompileRequest where
  table := "notes"
  columns := [{ name := "title", type := "varchar(80)", key := some "UNI" },
              { name := "author", type := "int", nullable := false, key := some "MUL" }]
  keys := [{ table := "notes", column := "author", constraint := "one_title" },
           { table := "notes", column := "title", constraint := "one_title" }]

/-- A table whose column of the usual name is not described as a key, but is in a unique constraint. -/
def badges : CompileRequest where
  table := "badges"
  columns := [{ name := "label", type := "varchar(20)", nullable := false, key := some "UNI" },
              { name := "id", type := "int" }]
  keys := [{ table := "badges", column := "label", constraint := "one_label" },
           { table := "badges", column := "id", constraint := "one_label" }]

theorem compile_synthesized_notes :
    (({} : Compiler).compile notes).2 = .ok
      { tables := ["CREATE TABLE `notes` (\n`id` INT64 NOT NULL,\n`title` STRING(80),\n`author` INT64 NOT NULL\n) " ++
          "PRIMARY KEY (id);"]
        indexes := ["CREATE UNIQUE NULL_FILTERED INDEX `one_title` ON `notes` (`author`, `title`);"] } ∧
    ({} : Compiler).compile { notes with columns := Column.synthesized "id" :: notes.columns, synthesis := false }
      = ({} : Compiler).compile notes ∧
    (({} : Compiler).compile badges).2 = .ok
      { tables := ["CREATE TABLE `badges` (\n`label` STRING(20) NOT NULL,\n`id` INT64\n) PRIMARY KEY (id);"]
        indexes := ["CREATE UNIQUE NULL_FILTERED INDEX `one_label` ON `badges` (`label`, `id`);"] } ∧
    ({} : Compiler).compile
        { badges with columns := badges.columns.take 1 ++ [{ name := "id", type := "int", key := some "PRI" }] }
      = ({} : Compiler).compile badges := by
  obtain ⟨hnew, -⟩ := compile_synthesized (r := notes) {} (by decide) rfl
  obtain ⟨-, hdescribed⟩ := compile_synthesized (r := badges) {} (by decide) rfl
  refine ⟨eq_ok_of_toOption (by decide +kernel), ?_, eq_ok_of_toOption (by decide +kernel), ?_⟩
  · exact hnew (by decide) (by decide) false
  · exact hdescribed (badges.columns.take 1) { name := "id", type := "int" } [] rfl rfl (by decide) true

end CompileRequest
end SpannerSchema

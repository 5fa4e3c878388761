import SpannerSchema.Column
import SpannerSchema.KeyUsage

/-! The keys of a table by the statement that will declare them. Unique groups keep the order in which their
    constraints were first met, and a group names no column twice. -/

namespace SpannerSchema

/-- The columns of one unique constraint. The index leaves out rows with nulls if `nullFiltered`. -/
structure UniqueGroup where
  name : String
  columns : List String := []
  nullFiltered : Bool := false
deriving DecidableEq, Repr

namespace UniqueGroup

/-- The group with one more column, unless it has that column. -/
def insert (g : UniqueGroup) (column : String) : UniqueGroup :=
  if column ∈ g.columns then g else { g with columns := g.columns ++ [column] }

/-- The group with more columns, in their order. -/
def insertAll (g : UniqueGroup) (columns : List String) : UniqueGroup := columns.foldl insert g

@[simp] theorem name_insert (g : UniqueGroup) (c : String) : (g.insert c).name = g.name := by
  unfold insert; split <;> rfl

theorem mem_columns_insert {g : UniqueGroup} {c d : String} :
    d ∈ (g.insert c).columns ↔ d ∈ g.columns ∨ d = c := by
  unfold insert
  split
  · next h => exact ⟨Or.inl, fun hd => hd.elim id fun e => e ▸ h⟩
  · simp

theorem nodup_columns_insert {g : UniqueGroup} (h : g.columns.Nodup) (c : String) : (g.insert c).columns.Nodup := by
  unfold insert
  split
  · exact h
  · next hc =>
    rw [List.nodup_append]
    refine ⟨h, by simp, ?_⟩
    rintro a ha b hb rfl
    rw [List.mem_singleton] at hb
    exact hc (hb ▸ ha)

theorem nodup_columns_insertAll {g : UniqueGroup} (h : g.columns.Nodup) (cs : List String) :
    (g.insertAll cs).columns.Nodup := by
  unfold insertAll
  induction cs generalizing g with
  | nil => exact h
  | cons c cs ih => exact ih (nodup_columns_insert h c)

end UniqueGroup

/-- The keys met so far. -/
structure Buckets where
  primaryKeys : List String := []
  foreignKeys : List KeyUsage := []
  uniqueGroups : List UniqueGroup := []
  secondaryIndexes : List String := []
deriving DecidableEq, Repr

namespace Buckets

/-- The group of a constraint. -/
def group? (b : Buckets) (name : String) : Option UniqueGroup := b.uniqueGroups.find? fun g => g.name == name

/-- The buckets in which the group of a constraint, new if there was none, is changed by `f`. -/
def modifyGroup (b : Buckets) (name : String) (f : UniqueGroup → UniqueGroup) : Buckets :=
  match b.group? name with
  | some _ => { b with uniqueGroups := b.uniqueGroups.map fun g => if g.name == name then f g else g }
  | none => { b with uniqueGroups := b.uniqueGroups ++ [f { name := name }] }

section
variable {b : Buckets} {name : String} {f : UniqueGroup → UniqueGroup}

@[simp] theorem primaryKeys_modifyGroup : (b.modifyGroup name f).primaryKeys = b.primaryKeys := by
  unfold modifyGroup; split <;> rfl

@[simp] theorem foreignKeys_modifyGroup : (b.modifyGroup name f).foreignKeys = b.foreignKeys := by
  unfold modifyGroup; split <;> rfl

@[simp] theorem secondaryIndexes_modifyGroup : (b.modifyGroup name f).secondaryIndexes = b.secondaryIndexes := by
  unfold modifyGroup; split <;> rfl

end

def addPrimary (b : Buckets) (column : String) : Buckets := { b with primaryKeys := b.primaryKeys ++ [column] }

def addForeign (b : Buckets) (key : KeyUsage) : Buckets := { b with foreignKeys := b.foreignKeys ++ [key] }

def addSecondary (b : Buckets) (column : String) : Buckets :=
  { b with secondaryIndexes := b.secondaryIndexes ++ [column] }

end Buckets
end SpannerSchema

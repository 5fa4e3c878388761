import SpannerSchema.Proofs.Keys.Members

/-! Where the marked columns of a table end up. Four questions are asked of a column, each of its marker, its first
    record and the mode alone. A marked column that has a place answers yes to exactly one of them and an unmarked column
    to none, and each bucket holds what the columns that answer yes to its question bring, in their order. So no marked
    column is lost and none is declared twice. -/

namespace SpannerSchema
namespace Classification

/-! ### Questions -/

section
variable (mode : IndexMode) (keys : List KeyUsage) (c : Column)

/-- Does the first record of a column name a referenced table? -/
def refers : Bool := (KeyUsage.firstFor? keys c.name).any fun k => k.referencedTable.isSome

/-- Does the first record of a column name no referenced table? -/
def standsAlone : Bool := (KeyUsage.firstFor? keys c.name).any fun k => k.referencedTable.isNone

def inPrimaryKey : Bool := c.key == some "PRI"

def inForeignKey : Bool := c.key == some "MUL" && refers keys c

def inSecondaryIndex : Bool :=
  c.key == some "MUL"
    && ((KeyUsage.firstFor? keys c.name).isNone || (mode == .secondary && standsAlone keys c))

def inUniqueGroup : Bool :=
  c.key == some "UNI" || (c.key == some "MUL" && (mode == .unique && standsAlone keys c))

/-- The answers of a column to the four questions. -/
def answers : List Bool :=
  [inPrimaryKey c, inForeignKey keys c, inSecondaryIndex mode keys c, inUniqueGroup mode keys c]

end

/-- What is in the buckets of a table: from each column what its answers say, and nothing else. -/
structure Routed (mode : IndexMode) (idName : String) (columns : List Column) (keys : List KeyUsage) (b : Buckets) :
    Prop where
  primaryKeys : b.primaryKeys =
    if columns.any inPrimaryKey then (columns.filter inPrimaryKey).map (·.name) else [idName]
  foreignKeys : b.foreignKeys = (columns.filter (inForeignKey keys)).filterMap fun c => KeyUsage.firstFor? keys c.name
  secondaryIndexes : b.secondaryIndexes = (columns.filter (inSecondaryIndex mode keys)).map (·.name)
  uniqueGroups : b.uniqueGroups.map (·.name) = ((columns.filter (inUniqueGroup mode keys)).filterMap fun c =>
    (KeyUsage.firstFor? keys c.name).map (·.constraint)).eraseDups
  recorded : ∀ c ∈ columns, inForeignKey keys c = true ∨ inUniqueGroup mode keys c = true →
    (KeyUsage.firstFor? keys c.name).isSome = true
  once : ∀ c ∈ columns, (answers mode keys c).count true = if c.key = none ∨ c.key = some "" then 0 else 1

/-! ### Answers -/

section
variable {mode : IndexMode} {columns : List Column} {keys : List KeyUsage} {c : Column}

/-- What some columns bring is what all bring where the others bring nothing. -/
theorem filterMap_eq_filter {α : Type} {brought? bring? : Column → Option α} {asked : Column → Bool}
    (h : ∀ c, brought? c = if asked c then bring? c else none) (columns : List Column) :
    columns.filterMap brought? = (columns.filter asked).filterMap bring? := by
  rw [List.filterMap_filter]
  exact congrArg (columns.filterMap ·) (funext h)

theorem refers_eq_not_standsAlone (h : (KeyUsage.firstFor? keys c.name).isSome = true) :
    refers keys c = !standsAlone keys c := by
  unfold refers standsAlone
  obtain ⟨k, hk⟩ := Option.isSome_iff_exists.mp h
  rw [hk, Option.any_some, Option.any_some]
  cases k.referencedTable <;> rfl

theorem primary?_eq (c : Column) : primary? c = if inPrimaryKey c then some c.name else none := by
  simp [primary?, inPrimaryKey]

theorem foreign?_eq (keys : List KeyUsage) (c : Column) :
    foreign? keys c = if inForeignKey keys c then KeyUsage.firstFor? keys c.name else none := by
  unfold foreign? inForeignKey refers
  by_cases hkey : c.key = some "MUL"
  · cases hf : KeyUsage.firstFor? keys c.name with
    | none => simp [hkey]
    | some k =>
      simp only [hkey, if_true, Option.filter, KeyUsage.isForeign, beq_self_eq_true, Bool.true_and, Option.any_some]
      rfl
  · simp [hkey]

theorem secondary?_eq (mode : IndexMode) (keys : List KeyUsage) (c : Column) :
    secondary? mode keys c = if inSecondaryIndex mode keys c then some c.name else none := by
  unfold secondary? inSecondaryIndex standsAlone
  by_cases hkey : c.key = some "MUL"
  · cases hf : KeyUsage.firstFor? keys c.name with
    | none => simp [hkey]
    | some k => simp [hkey, KeyUsage.isForeign]
  · simp [hkey]

theorem unique?_eq (mode : IndexMode) (keys : List KeyUsage) (c : Column) :
    unique? mode keys c =
      if inUniqueGroup mode keys c then (KeyUsage.firstFor? keys c.name).map (·.constraint) else none := by
  unfold unique? inUniqueGroup standsAlone
  cases hf : KeyUsage.firstFor? keys c.name with
  | none => simp
  | some k => simp [KeyUsage.isForeign]

/-- A column that is not at fault has one of the known markers, and a record if it is marked as unique. -/
theorem known_of_fault? (h : fault? keys c = none) :
    (c.key = none ∨ c.key = some "") ∨ c.key = some "PRI" ∨ c.key = some "MUL" ∨
      c.key = some "UNI" ∧ (KeyUsage.firstFor? keys c.name).isSome = true := by
  unfold fault? at h
  split at h
  · cases h
  · next hknown =>
    split at h
    · cases h
    · next hrecord =>
      simp only [List.mem_cons, List.not_mem_nil, or_false, Decidable.not_not] at hknown
      rcases hknown with hk | hk | hk | hk | hk
      · exact Or.inl (Or.inl hk)
      · exact Or.inl (Or.inr hk)
      · exact Or.inr (Or.inl hk)
      · exact Or.inr (Or.inr (Or.inl hk))
      · refine Or.inr (Or.inr (Or.inr ⟨hk, Option.isSome_iff_ne_none.mpr fun hnone => ?_⟩))
        exact hrecord ⟨hk, KeyUsage.firstFor?_eq_none_iff.mp hnone⟩

/-- A column of a non-unique key refers to another table, or has an index of its own, or is in a unique group. -/
theorem count_answers_of_multiple (hkey : c.key = some "MUL") : (answers mode keys c).count true = 1 := by
  unfold answers inPrimaryKey inForeignKey inSecondaryIndex inUniqueGroup
  cases hf : (KeyUsage.firstFor? keys c.name).isSome with
  | false =>
    rw [Option.isSome_eq_false_iff, Option.isNone_iff_eq_none] at hf
    simp [hkey, refers, standsAlone, hf]
  | true =>
    rw [refers_eq_not_standsAlone hf, ← Option.not_isSome, hf, hkey]
    cases standsAlone keys c <;> cases mode <;> decide

theorem count_answers (h : fault? keys c = none) :
    (answers mode keys c).count true = if c.key = none ∨ c.key = some "" then 0 else 1 := by
  rcases known_of_fault? h with hk | hk | hk | ⟨hk, -⟩
  · rw [if_pos hk]
    rcases hk with hk | hk <;> simp [answers, inPrimaryKey, inForeignKey, inSecondaryIndex, inUniqueGroup, hk]
  · simp [answers, inPrimaryKey, inForeignKey, inSecondaryIndex, inUniqueGroup, hk]
  · rw [count_answers_of_multiple hk, if_neg (by simp [hk])]
  · simp [answers, inPrimaryKey, inForeignKey, inSecondaryIndex, inUniqueGroup, hk]

theorem isSome_firstFor?_of_answers (h : fault? keys c = none)
    (hc : inForeignKey keys c = true ∨ inUniqueGroup mode keys c = true) :
    (KeyUsage.firstFor? keys c.name).isSome = true := by
  have hany {asked : KeyUsage → Bool} (ha : (KeyUsage.firstFor? keys c.name).any asked = true) :
      (KeyUsage.firstFor? keys c.name).isSome = true := by
    obtain ⟨k, hk, -⟩ := (Option.any_eq_true _ _).mp ha
    exact Option.isSome_iff_exists.mpr ⟨k, hk⟩
  rcases hc with hc | hc
  · exact hany (Bool.and_eq_true _ _ ▸ hc).2
  · rcases (Bool.or_eq_true _ _ ▸ hc) with hunique | hmultiple
    · rcases known_of_fault? h with (hk | hk) | hk | hk | ⟨-, hrecord⟩
      case inr.inr.inr => exact hrecord
      all_goals simp [hk] at hunique
    · exact hany (Bool.and_eq_true _ _ ▸ (Bool.and_eq_true _ _ ▸ hmultiple).2).2

end

/-! ### The buckets -/

section
variable {mode : IndexMode} {o : ClassifyOptions} {columns sorted : List Column} {keys : List KeyUsage} {b : Buckets}

/-- A sort that returns has found no column at fault. -/
theorem fault?_eq_none_of_classify (h : classify mode o columns keys {} = (b, .ok sorted)) :
    ∀ c ∈ columns, fault? keys c = none := by
  obtain ⟨_, hplaced, -, -⟩ := classify_eq_ok h
  have hsnd := placeAll_snd mode columns keys {} columns
  rw [hplaced] at hsnd
  exact List.findSome?_eq_none_iff.mp hsnd.symm

/-- Every marked column of a table that is sorted from the start goes to one bucket, and no other column to any. -/
theorem routed_of_classify (h : classify mode o columns keys {} = (b, .ok sorted)) :
    Routed mode o.idName columns keys b := by
  have hfaults := fault?_eq_none_of_classify h
  have hany : hasPrimary columns = columns.any inPrimaryKey := rfl
  constructor
  case primaryKeys => rw [primaryKeys_classify h, hany, filterMap_eq_filter primary?_eq, List.filterMap_eq_map']
  case foreignKeys => rw [foreignKeys_classify h, filterMap_eq_filter (foreign?_eq keys)]
  case secondaryIndexes =>
    rw [secondaryIndexes_classify h, filterMap_eq_filter (secondary?_eq mode keys), List.filterMap_eq_map']
  case uniqueGroups =>
    have hnames : b.uniqueGroups.map (·.name) = (columns.filterMap (unique? mode keys)).eraseDups := by
      rw [uniqueGroups_classify h, List.map_map]
      exact List.map_id _
    rw [hnames, filterMap_eq_filter (unique?_eq mode keys)]
  case recorded => exact fun c hc hasked => isSome_firstFor?_of_answers (hfaults c hc) hasked
  case once => exact fun c hc => count_answers (hfaults c hc)

/-- Passes of a lift: one column of each way, with a column that repeats a name and a record that repeats a column. -/
def passes : List Column :=
  [{ name := "owner", type := "int", key := some "MUL" }, { name := "note", type := "text", key := some "" },
   { name := "code", type := "int", nullable := false, key := some "UNI" },
   { name := "day", type := "date", key := some "MUL" }, { name := "zone", type := "int", key := some "MUL" },
   { name := "code", type := "int", key := some "MUL" }]

def passKeys : List KeyUsage :=
  [{ table := "passes", column := "day", constraint := "of_day" },
   { table := "passes", column := "owner", constraint := "held_by", referencedTable := some "people",
     referencedColumn := some "id" },
   { table := "passes", column := "code", constraint := "one_code" },
   { table := "passes", column := "day", constraint := "day_of", referencedTable := some "days" }]

theorem routed_of_classify_passes : ∃ b₁ b₂ sorted₁ sorted₂,
    classify .unique {} passes passKeys {} = (b₁, .ok sorted₁) ∧
    classify .secondary {} passes passKeys {} = (b₂, .ok sorted₂) ∧
    Routed .unique "id" passes passKeys b₁ ∧ Routed .secondary "id" passes passKeys b₂ ∧
    b₁.uniqueGroups.map (·.name) = ["one_code", "of_day"] ∧ b₁.secondaryIndexes = ["zone"] ∧
    b₂.uniqueGroups.map (·.name) = ["one_code"] ∧ b₂.secondaryIndexes = ["day", "zone", "code"] := by
  have h₁ : classify .unique {} passes passKeys {} =
      ({ primaryKeys := ["id"], foreignKeys := passKeys.filter (·.column == "owner"),
         uniqueGroups := [⟨"one_code", ["code"], false⟩, ⟨"of_day", ["day"], true⟩], secondaryIndexes := ["zone"] },
        .ok (Column.synthesized "id" :: passes)) := by decide +kernel
  have h₂ : classify .secondary {} passes passKeys {} =
      ({ primaryKeys := ["id"], foreignKeys := passKeys.filter (·.column == "owner"),
         uniqueGroups := [⟨"one_code", ["code"], false⟩], secondaryIndexes := ["day", "zone", "code"] },
        .ok (Column.synthesized "id" :: passes)) := by decide +kernel
  exact ⟨_, _, _, _, h₁, h₂, routed_of_classify h₁, routed_of_classify h₂, rfl, rfl, rfl, rfl⟩

end
end Classification
end SpannerSchema

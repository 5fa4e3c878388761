import SpannerSchema.Proofs.Keys.Groups

/-! Buckets that several tables share. A sort appends to what the buckets hold and takes nothing away, also when it stops
    at a column that has no place: each bucket goes on where it was, and so does each group, which still names no column
    twice. A sort that stops has sorted the columns before the one at fault, as if none of the others had a marker. -/

namespace SpannerSchema

namespace UniqueGroup

theorem columns_prefix_insert (g : UniqueGroup) (c : String) : g.columns <+: (g.insert c).columns := by
  unfold insert
  split
  · exact List.prefix_refl _
  · exact List.prefix_append _ _

theorem columns_prefix_insertAll (g : UniqueGroup) (cs : List String) : g.columns <+: (g.insertAll cs).columns := by
  induction cs generalizing g with
  | nil => exact List.prefix_refl _
  | cons c cs ih => exact (columns_prefix_insert g c).trans (ih (g.insert c))

end UniqueGroup

namespace Buckets

/-- The buckets `b'` go on where `b` ends, and each group of `b` goes on in its place. -/
structure Grows (b b' : Buckets) : Prop where
  primaryKeys : b.primaryKeys <+: b'.primaryKeys
  foreignKeys : b.foreignKeys <+: b'.foreignKeys
  secondaryIndexes : b.secondaryIndexes <+: b'.secondaryIndexes
  uniqueGroups : ∀ (i : Nat) g, b.uniqueGroups[i]? = some g →
    ∃ g', b'.uniqueGroups[i]? = some g' ∧ g'.name = g.name ∧ g.columns <+: g'.columns

/-- No group names a column twice. -/
def Distinct (b : Buckets) : Prop := ∀ g ∈ b.uniqueGroups, g.columns.Nodup

instance (b : Buckets) : Decidable b.Distinct := inferInstanceAs (Decidable (∀ g ∈ b.uniqueGroups, g.columns.Nodup))

variable {b b₁ b₂ : Buckets}

theorem Grows.refl (b : Buckets) : Grows b b :=
  ⟨List.prefix_refl _, List.prefix_refl _, List.prefix_refl _, fun _ g hg => ⟨g, hg, rfl, List.prefix_refl _⟩⟩

theorem Grows.trans (h₁ : Grows b b₁) (h₂ : Grows b₁ b₂) : Grows b b₂ where
  primaryKeys := h₁.primaryKeys.trans h₂.primaryKeys
  foreignKeys := h₁.foreignKeys.trans h₂.foreignKeys
  secondaryIndexes := h₁.secondaryIndexes.trans h₂.secondaryIndexes
  uniqueGroups i g hg := by
    obtain ⟨g₁, hg₁, hname₁, hcolumns₁⟩ := h₁.uniqueGroups i g hg
    obtain ⟨g₂, hg₂, hname₂, hcolumns₂⟩ := h₂.uniqueGroups i g₁ hg₁
    exact ⟨g₂, hg₂, hname₂.trans hname₁, hcolumns₁.trans hcolumns₂⟩

/-- What every step of a sort keeps. -/
structure Keeps (b b' : Buckets) : Prop where
  grows : Grows b b'
  distinct : Distinct b → Distinct b'

theorem Keeps.refl (b : Buckets) : Keeps b b := ⟨.refl b, id⟩

theorem Keeps.trans (h₁ : Keeps b b₁) (h₂ : Keeps b₁ b₂) : Keeps b b₂ :=
  ⟨h₁.grows.trans h₂.grows, h₂.distinct ∘ h₁.distinct⟩

/-! ### Steps -/

theorem keeps_addPrimary (b : Buckets) (column : String) : Keeps b (b.addPrimary column) where
  grows := { Grows.refl b with primaryKeys := List.prefix_append _ _ }
  distinct := id

theorem keeps_addForeign (b : Buckets) (key : KeyUsage) : Keeps b (b.addForeign key) where
  grows := { Grows.refl b with foreignKeys := List.prefix_append _ _ }
  distinct := id

theorem keeps_addSecondary (b : Buckets) (column : String) : Keeps b (b.addSecondary column) where
  grows := { Grows.refl b with secondaryIndexes := List.prefix_append _ _ }
  distinct := id

/-- A change of one group keeps the buckets if it keeps the group. -/
theorem keeps_modifyGroup (b : Buckets) (name : String) {f : UniqueGroup → UniqueGroup}
    (hname : ∀ g, (f g).name = g.name) (hcolumns : ∀ g, g.columns <+: (f g).columns)
    (hdistinct : ∀ g, g.columns.Nodup → (f g).columns.Nodup) : Keeps b (b.modifyGroup name f) := by
  have hgroups : (b.modifyGroup name f).uniqueGroups = b.uniqueGroups.map (fun g => if g.name == name then f g else g) ∨
      (b.modifyGroup name f).uniqueGroups = b.uniqueGroups ++ [f { name := name }] := by
    unfold modifyGroup
    split
    · exact Or.inl rfl
    · exact Or.inr rfl
  refine ⟨⟨by simp, by simp, by simp, fun i g hg => ?_⟩, fun hd g hg => ?_⟩
  · rcases hgroups with heq | heq
    · rw [heq, List.getElem?_map, hg]
      refine ⟨_, rfl, ?_⟩
      dsimp only
      split
      · exact ⟨hname g, hcolumns g⟩
      · exact ⟨rfl, List.prefix_refl _⟩
    · obtain ⟨hi, -⟩ := List.getElem?_eq_some_iff.mp hg
      rw [heq, List.getElem?_append_left hi]
      exact ⟨g, hg, rfl, List.prefix_refl _⟩
  · rcases hgroups with heq | heq
    · rw [heq] at hg
      obtain ⟨g₀, hg₀, rfl⟩ := List.mem_map.mp hg
      split
      · exact hdistinct g₀ (hd g₀ hg₀)
      · exact hd g₀ hg₀
    · rw [heq, List.mem_append, List.mem_singleton] at hg
      rcases hg with hg | rfl
      · exact hd g hg
      · exact hdistinct _ List.nodup_nil

end Buckets

namespace Classification
open Buckets

variable {mode : IndexMode} {o : ClassifyOptions} {columns columns' : List Column} {keys : List KeyUsage} {b : Buckets}
  {i : Nat} {e : CompileError}

theorem keeps_addUnique (columns : List Column) (keys : List KeyUsage) (b : Buckets) (detail : KeyUsage)
    (column : String) : Keeps b (addUnique columns keys b detail column) := by
  refine keeps_modifyGroup b _ (fun g => ?_) (fun g => ?_) (fun g hg => ?_)
  · exact (UniqueGroup.name_insert _ _).trans (UniqueGroup.name_insertAll g _)
  · exact (UniqueGroup.columns_prefix_insertAll g _).trans (UniqueGroup.columns_prefix_insert _ _)
  · exact UniqueGroup.nodup_columns_insert (UniqueGroup.nodup_columns_insertAll hg _) _

theorem keeps_follow (columns : List Column) (keys : List KeyUsage) (b : Buckets) (c : Column) (way : Route) :
    Keeps b (follow columns keys b c way) := by
  cases way with
  | nowhere => exact .refl b
  | primary => exact keeps_addPrimary b c.name
  | foreign detail => exact keeps_addForeign b detail
  | secondary => exact keeps_addSecondary b c.name
  | unique detail => exact keeps_addUnique columns keys b detail c.name

/-! ### Sorts -/

theorem keeps_placeAll (mode : IndexMode) (columns : List Column) (keys : List KeyUsage) (b : Buckets)
    (todo : List Column) : Keeps b (placeAll mode columns keys b todo).1 := by
  induction todo generalizing b with
  | nil => exact .refl b
  | cons c todo ih =>
    rw [placeAll]
    cases hc : place mode columns keys b c with
    | error e => exact .refl b
    | ok b₁ =>
      obtain ⟨way, -, rfl⟩ := place_eq_ok hc
      exact (keeps_follow columns keys b c way).trans (ih _)

theorem keeps_classify (mode : IndexMode) (o : ClassifyOptions) (columns : List Column) (keys : List KeyUsage)
    (b : Buckets) : Keeps b (classify mode o columns keys b).1 := by
  have hplaced := keeps_placeAll mode columns keys b columns
  unfold classify
  rcases hp : placeAll mode columns keys b columns with ⟨b₁, _ | e⟩
  · rw [hp] at hplaced
    dsimp only
    split
    · exact hplaced
    · split
      · exact hplaced
      · exact hplaced.trans (keeps_addPrimary b₁ o.idName)
  · rw [hp] at hplaced
    exact hplaced

/-! ### Sorts that stop -/

theorem placeAll_append (mode : IndexMode) (columns : List Column) (keys : List KeyUsage) (b : Buckets)
    (before after : List Column) : placeAll mode columns keys b (before ++ after) =
      match placeAll mode columns keys b before with
      | (b, some e) => (b, some e)
      | (b, none) => placeAll mode columns keys b after := by
  induction before generalizing b with
  | nil => rfl
  | cons c before ih =>
    rw [List.cons_append, placeAll, placeAll]
    cases place mode columns keys b c with
    | error e => rfl
    | ok b₁ => exact ih b₁

/-- Of the described columns a sort reads only which may be null. -/
theorem placeAll_congr (h : isNullable columns' = isNullable columns) (b : Buckets) (todo : List Column) :
    placeAll mode columns' keys b todo = placeAll mode columns keys b todo := by
  have hplace (b : Buckets) (c : Column) : place mode columns' keys b c = place mode columns keys b c := by
    refine congrArg (fun f => (route mode keys c).map f) (funext fun way => ?_)
    cases way with
    | unique detail => simp only [follow, addUnique, h]
    | _ => rfl
  induction todo generalizing b with
  | nil => rfl
  | cons c todo ih =>
    rw [placeAll, placeAll, hplace]
    cases place mode columns keys b c with
    | error e => rfl
    | ok b₁ => exact ih b₁

theorem placeAll_map_withoutMarker (mode : IndexMode) (columns : List Column) (keys : List KeyUsage) (b : Buckets)
    (todo : List Column) : placeAll mode columns keys b (todo.map Column.withoutMarker) = (b, none) := by
  induction todo with
  | nil => rfl
  | cons c todo ih => exact ih

/-- The columns, without a marker from the one at `i` on. -/
def unmarkedFrom (i : Nat) (columns : List Column) : List Column :=
  columns.take i ++ (columns.drop i).map Column.withoutMarker

theorem isNullable_unmarkedFrom (i : Nat) (columns : List Column) :
    isNullable (unmarkedFrom i columns) = isNullable columns := by
  have hmarkers : (unmarkedFrom i columns).map Column.withoutMarker = columns.map Column.withoutMarker := by
    have hagain : Column.withoutMarker ∘ Column.withoutMarker = Column.withoutMarker := rfl
    rw [unmarkedFrom, List.map_append, List.map_map, hagain, ← List.map_append, List.take_append_drop]
  rw [← isNullable_map_withoutMarker, hmarkers, isNullable_map_withoutMarker]

/-- The column at `i` is the first at fault. -/
structure StopsAt (keys : List KeyUsage) (columns : List Column) (i : Nat) (e : CompileError) : Prop where
  fault : ∃ c, columns[i]? = some c ∧ fault? keys c = some e
  before : ∀ c ∈ columns.take i, fault? keys c = none

/-- A sort that stops leaves what it has sorted so far. -/
theorem placeAll_of_stopsAt (h : StopsAt keys columns i e) (described : List Column) (b : Buckets) :
    placeAll mode described keys b columns = ((placeAll mode described keys b (columns.take i)).1, some e) := by
  obtain ⟨c, hc, hfault⟩ := h.fault
  obtain ⟨hi, rfl⟩ := List.getElem?_eq_some_iff.mp hc
  have hsplit : columns = columns.take i ++ columns[i] :: columns.drop (i + 1) := by
    rw [← List.drop_eq_getElem_cons hi, List.take_append_drop]
  have hbefore : (placeAll mode described keys b (columns.take i)).2 = none := by
    rw [placeAll_snd, List.findSome?_eq_none_iff]
    exact h.before
  have hstop (b : Buckets) (todo : List Column) :
      placeAll mode described keys b (columns[i] :: todo) = (b, some e) := by
    have hroute : route mode keys columns[i] = .error e := failure?_eq_some_iff.mp ((failure?_route mode keys _).trans hfault)
    rw [placeAll, place, hroute]
    rfl
  conv_lhs => rw [hsplit, placeAll_append]
  rcases hb : placeAll mode described keys b (columns.take i) with ⟨b₁, _ | e'⟩
  · exact hstop b₁ _
  · rw [hb] at hbefore
    cases hbefore

theorem placeAll_unmarkedFrom (h : StopsAt keys columns i e) (b : Buckets) :
    placeAll mode (unmarkedFrom i columns) keys b (unmarkedFrom i columns) =
      ((placeAll mode columns keys b columns).1, none) := by
  have hbefore : (placeAll mode columns keys b (columns.take i)).2 = none := by
    rw [placeAll_snd, List.findSome?_eq_none_iff]
    exact h.before
  rw [placeAll_congr (isNullable_unmarkedFrom i columns), unmarkedFrom, placeAll_append, placeAll_of_stopsAt h]
  rcases hb : placeAll mode columns keys b (columns.take i) with ⟨b₁, _ | e'⟩
  · exact placeAll_map_withoutMarker mode columns keys b₁ _
  · rw [hb] at hbefore
    cases hbefore

theorem classify_of_stopsAt (h : StopsAt keys columns i e) (o : ClassifyOptions) (b : Buckets) :
    classify mode o columns keys b =
      ((classify mode { o with synthesis := false } (unmarkedFrom i columns) keys b).1, .error e) := by
  have hleft : (classify mode { o with synthesis := false } (unmarkedFrom i columns) keys b).1
      = (placeAll mode columns keys b columns).1 := by
    rw [classify, placeAll_unmarkedFrom h]
    dsimp only
    split <;> rfl
  rw [hleft, placeAll_of_stopsAt h, classify, placeAll_of_stopsAt h]

theorem failure_of_classify (h : (classify mode o columns keys b).2 = .error e) :
    (∃ i, StopsAt keys columns i e) ∨ e = .noPrimaryKey ∧ o.synthesis = false ∧ ∀ c ∈ columns, fault? keys c = none := by
  have hfirst := placeAll_snd mode columns keys b columns
  unfold classify at h
  rcases hp : placeAll mode columns keys b columns with ⟨b₁, _ | e'⟩
  · rw [hp] at hfirst h
    dsimp only at h
    split at h
    · cases h
    · split at h
      · next hs =>
        cases h
        exact Or.inr ⟨rfl, by simpa using hs, List.findSome?_eq_none_iff.mp hfirst.symm⟩
      · cases h
  · rw [hp] at hfirst h
    cases h
    obtain ⟨before, c, after, rfl, hfault, hbefore⟩ := List.findSome?_eq_some_iff.mp hfirst.symm
    exact Or.inl ⟨before.length, ⟨c, by simp, hfault⟩, by simpa using hbefore⟩

end Classification

/-! ### Tables one after another -/

/-- A table whose keys are to be sorted, and how. -/
structure KeySort where
  mode : IndexMode
  options : ClassifyOptions := {}
  columns : List Column
  keys : List KeyUsage := []

namespace KeySort
open Classification

def run (s : KeySort) (b : Buckets) : Buckets × Except CompileError (List Column) :=
  classify s.mode s.options s.columns s.keys b

/-- The buckets after all the sorts. Each goes on with what the one before it has left, whatever that came to. -/
def runAll (b : Buckets) (sorts : List KeySort) : Buckets := sorts.foldl (fun b s => (s.run b).1) b

/-- The sort of the table without a marker from the column at `i` on, which makes no key up. -/
def unmarkedFrom (i : Nat) (s : KeySort) : KeySort :=
  { s with columns := Classification.unmarkedFrom i s.columns, options := { s.options with synthesis := false } }

/-- What a sort makes of the buckets `b`, and where it stops if it fails. -/
structure Appends (s : KeySort) (b : Buckets) : Prop where
  grows : b.Grows (s.run b).1
  distinct : (s.run b).1.Distinct
  failure : ∀ e, (s.run b).2 = .error e → (∃ i, StopsAt s.keys s.columns i e) ∨
    e = .noPrimaryKey ∧ s.options.synthesis = false ∧ ∀ c ∈ s.columns, fault? s.keys c = none
  stopped : ∀ i e, StopsAt s.keys s.columns i e → s.run b = (((s.unmarkedFrom i).run b).1, .error e)

theorem keeps_runAll (b : Buckets) (sorts : List KeySort) : b.Keeps (runAll b sorts) := by
  induction sorts generalizing b with
  | nil => exact .refl b
  | cons s sorts ih => exact (keeps_classify s.mode s.options s.columns s.keys b).trans (ih (s.run b).1)

/-- However many tables are sorted into the buckets, and however many of them fail, each appends to what it finds. -/
theorem appends_runAll {b : Buckets} (hb : b.Distinct) (sorts : List KeySort) :
    b.Grows (runAll b sorts) ∧ (runAll b sorts).Distinct ∧
      ∀ earlier s later, sorts = earlier ++ s :: later → Appends s (runAll b earlier) := by
  have hall := keeps_runAll b sorts
  refine ⟨hall.grows, hall.distinct hb, fun earlier s later _ => ?_⟩
  have hearlier := (keeps_runAll b earlier).distinct hb
  have hkeeps := keeps_classify s.mode s.options s.columns s.keys (runAll b earlier)
  constructor
  case grows => exact hkeeps.grows
  case distinct => exact hkeeps.distinct hearlier
  case failure => exact fun e => failure_of_classify
  case stopped => exact fun i e hstops => classify_of_stopsAt hstops s.options (runAll b earlier)

/-- Buckets with a group, of which only one column is known so far. -/
def halls : Buckets := { primaryKeys := ["id"], uniqueGroups := [⟨"spot", ["row"], false⟩] }

/-- A table that adds to the group, and stops at its second column before it comes to its key. -/
def balcony : KeySort where
  mode := .unique
  columns := [{ name := "place", type := "int", key := some "MUL" }, { name := "price", type := "int", key := some "KEY" },
              { name := "number", type := "int", key := some "PRI" }]
  keys := [{ table := "balcony", column := "place", constraint := "spot" }]

theorem appends_runAll_halls :
    halls.Distinct ∧ runAll halls [balcony, balcony] =
        { primaryKeys := ["id"], uniqueGroups := [⟨"spot", ["row", "place"], true⟩] } ∧
      StopsAt balcony.keys balcony.columns 1 (.invalidMarker "KEY") ∧ Appends balcony halls ∧
      Appends balcony (runAll halls [balcony]) := by
  have hdistinct : halls.Distinct := by decide
  have hstops : StopsAt balcony.keys balcony.columns 1 (.invalidMarker "KEY") :=
    ⟨⟨_, rfl, by decide⟩, by decide⟩
  obtain ⟨-, -, happends⟩ := appends_runAll hdistinct [balcony, balcony]
  exact ⟨hdistinct, by decide +kernel, hstops, happends [] balcony [balcony] rfl, happends [balcony] balcony [] rfl⟩

end KeySort
end SpannerSchema

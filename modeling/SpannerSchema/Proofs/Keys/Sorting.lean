import SpannerSchema.Keys.Classification

/-! What sorting the keys of a table comes to. A column is at fault or it has a route, and the buckets do not matter to
    which of the two it is. So a sort fails with the first fault in the order of the columns, and without one each
    bucket holds what the columns bring to it, in their order. -/

namespace SpannerSchema

/-- The failure in an outcome, if there is one. -/
def failure? {α : Type} : Except CompileError α → Option CompileError
  | .ok _ => none
  | .error e => some e

section Failure
variable {α β : Type} {x : Except CompileError α}

theorem failure?_eq_some_iff {e : CompileError} : failure? x = some e ↔ x = .error e := by
  cases x <;> simp [failure?]

theorem failure?_eq_none_iff : failure? x = none ↔ ∃ a, x = .ok a := by
  cases x <;> simp [failure?]

theorem eq_ok_of_toOption {a : α} (h : x.toOption = some a) : x = .ok a := by
  cases x with
  | error e => cases h
  | ok b =>
    cases h
    rfl

theorem exists_of_map_eq_ok {ε : Type} {x : Except ε α} {f : α → β} {b : β} (h : x.map f = .ok b) :
    ∃ a, x = .ok a ∧ f a = b := by
  cases x with
  | error e => cases h
  | ok a => exact ⟨a, rfl, Except.ok.inj h⟩

@[simp] theorem failure?_map (f : α → β) : failure? (x.map f) = failure? x := by
  cases x <;> rfl

end Failure

/-- A column in an index other than the primary key. Of no other column are the records looked up. -/
def Column.Indexed (c : Column) : Prop := c.key = some "UNI" ∨ c.key = some "MUL"

instance (c : Column) : Decidable c.Indexed := inferInstanceAs (Decidable (_ ∨ _))

namespace Classification

variable {mode : IndexMode} {columns todo : List Column} {keys : List KeyUsage} {b b' : Buckets} {c : Column}

/-! ### Faults -/

/-- The fault of a column: its marker is none of the known ones, or it is unique and no record names it. -/
def fault? (keys : List KeyUsage) (c : Column) : Option CompileError :=
  if c.key ∉ [none, some "", some "PRI", some "MUL", some "UNI"] then some (.invalidMarker (c.key.getD ""))
  else if c.key = some "UNI" ∧ ∀ k ∈ keys, k.column ≠ c.name then some (.missingKeyDetail c.name)
  else none

/-- A column has no route exactly if it is at fault, whatever the mode. -/
theorem failure?_route (mode : IndexMode) (keys : List KeyUsage) (c : Column) :
    failure? (route mode keys c) = fault? keys c := by
  unfold route fault?
  cases hm : c.marker? with
  | none => simp only [Column.marker?_eq_none_iff.mp hm, not_false_eq_true, if_true, failure?]
  | some m =>
    have hknown : ¬c.key ∉ [none, some "", some "PRI", some "MUL", some "UNI"] := fun h => by
      rw [Column.marker?_eq_none_iff.mpr h] at hm
      cases hm
    rw [if_neg hknown]
    cases m with
    | unmarked =>
      have hkey : c.key ≠ some "UNI" := by
        rcases Column.marker?_eq_unmarked_iff.mp hm with h | h <;> simp [h]
      simp [hkey, failure?]
    | primary =>
      have hkey := (Column.marker?_eq_some_iff (by simp)).mp hm
      simp [hkey, KeyMarker.text, failure?]
    | unique =>
      have hkey : c.key = some "UNI" := (Column.marker?_eq_some_iff (by simp)).mp hm
      cases hf : KeyUsage.firstFor? keys c.name with
      | none =>
        rw [if_pos ⟨hkey, KeyUsage.firstFor?_eq_none_iff.mp hf⟩]
        rfl
      | some detail =>
        have hnamed : ¬∀ k ∈ keys, k.column ≠ c.name := fun h => by
          rw [KeyUsage.firstFor?_eq_none_iff.mpr h] at hf
          cases hf
        rw [if_neg fun h => hnamed h.2]
        rfl
    | multiple =>
      have hkey := (Column.marker?_eq_some_iff (by simp)).mp hm
      have hother : ¬(c.key = some "UNI" ∧ ∀ k ∈ keys, k.column ≠ c.name) := by simp [hkey, KeyMarker.text]
      rw [if_neg hother]
      cases KeyUsage.firstFor? keys c.name with
      | none => rfl
      | some detail =>
        dsimp only
        split
        · rfl
        · cases mode <;> rfl

/-- A sort fails with the first fault in the order of the columns, whatever the buckets held. -/
theorem placeAll_snd (mode : IndexMode) (columns : List Column) (keys : List KeyUsage) (b : Buckets)
    (todo : List Column) : (placeAll mode columns keys b todo).2 = todo.findSome? (fault? keys) := by
  induction todo generalizing b with
  | nil => rfl
  | cons c todo ih =>
    have hc : failure? (place mode columns keys b c) = fault? keys c := by rw [place, failure?_map, failure?_route]
    rw [placeAll, List.findSome?_cons, ← hc]
    cases place mode columns keys b c with
    | error e => rfl
    | ok b' => exact ih b'

/-! ### Routes -/

/-- When a column goes a way: its marker, its first record and the mode decide it. -/
def Goes (mode : IndexMode) (keys : List KeyUsage) (c : Column) : Route → Prop
  | .nowhere => c.key = none ∨ c.key = some ""
  | .primary => c.key = some "PRI"
  | .foreign detail => c.key = some "MUL" ∧ KeyUsage.firstFor? keys c.name = some detail ∧ detail.isForeign = true
  | .secondary => c.key = some "MUL" ∧ (KeyUsage.firstFor? keys c.name = none ∨
      mode = .secondary ∧ ∃ detail, KeyUsage.firstFor? keys c.name = some detail ∧ detail.isForeign = false)
  | .unique detail => KeyUsage.firstFor? keys c.name = some detail ∧
      (c.key = some "UNI" ∨ c.key = some "MUL" ∧ mode = .unique ∧ detail.isForeign = false)

theorem goes_of_route {way : Route} (h : route mode keys c = .ok way) : Goes mode keys c way := by
  unfold route at h
  cases hm : c.marker? with
  | none =>
    rw [hm] at h
    cases h
  | some m =>
    rw [hm] at h
    cases m with
    | unmarked =>
      cases h
      exact Column.marker?_eq_unmarked_iff.mp hm
    | primary =>
      cases h
      exact (Column.marker?_eq_some_iff (by simp)).mp hm
    | unique =>
      have hkey := (Column.marker?_eq_some_iff (by simp)).mp hm
      cases hf : KeyUsage.firstFor? keys c.name with
      | none => simp [hf] at h
      | some detail =>
        simp only [hf, Except.ok.injEq] at h
        subst h
        exact ⟨hf, Or.inl hkey⟩
    | multiple =>
      have hkey := (Column.marker?_eq_some_iff (by simp)).mp hm
      cases hf : KeyUsage.firstFor? keys c.name with
      | none =>
        simp only [hf, Except.ok.injEq] at h
        subst h
        exact ⟨hkey, Or.inl hf⟩
      | some detail =>
        cases hd : detail.isForeign with
        | true =>
          simp only [hf, hd, if_true, Except.ok.injEq] at h
          subst h
          exact ⟨hkey, hf, hd⟩
        | false =>
          simp only [hf, hd, Bool.false_eq_true, if_false] at h
          cases mode with
          | secondary =>
            cases h
            exact ⟨hkey, Or.inr ⟨rfl, detail, hf, hd⟩⟩
          | unique =>
            cases h
            exact ⟨hf, Or.inr ⟨hkey, rfl, hd⟩⟩

/-! ### What the buckets collect -/

/-- What a column gives to the primary key. -/
def primary? (c : Column) : Option String := if c.key = some "PRI" then some c.name else none

/-- What a column gives to the foreign keys: its first record, if that names a referenced table. -/
def foreign? (keys : List KeyUsage) (c : Column) : Option KeyUsage :=
  if c.key = some "MUL" then (KeyUsage.firstFor? keys c.name).filter (·.isForeign) else none

/-- What a column gives to the indexes that are not unique. -/
def secondary? (mode : IndexMode) (keys : List KeyUsage) (c : Column) : Option String :=
  if c.key = some "MUL" then
    match KeyUsage.firstFor? keys c.name with
    | none => some c.name
    | some detail => if mode = .secondary ∧ detail.isForeign = false then some c.name else none
  else none

theorem name_of_primary? {name : String} (h : primary? c = some name) : c.name = name := by
  unfold primary? at h
  split at h <;> cases h
  rfl

theorem name_of_foreign? {k : KeyUsage} (h : foreign? keys c = some k) : c.name = k.column := by
  unfold foreign? at h
  split at h
  · obtain ⟨hf, -⟩ := Option.filter_eq_some_iff.mp h
    exact (KeyUsage.column_of_firstFor? hf).symm
  · cases h

theorem name_of_secondary? {name : String} (h : secondary? mode keys c = some name) : c.name = name := by
  unfold secondary? at h
  split at h
  · split at h
    · cases h
      rfl
    · split at h <;> cases h
      rfl
  · cases h

/-- What columns bring stands in the order of their names, at most once for each. -/
theorem sublist_of_brought {α : Type} {brought? : Column → Option α} {name : α → String}
    (h : ∀ c a, brought? c = some a → c.name = name a) (columns : List Column) :
    ((columns.filterMap brought?).map name).Sublist (columns.map (·.name)) := by
  induction columns with
  | nil => exact .slnil
  | cons c columns ih =>
    cases hc : brought? c with
    | none =>
      rw [List.filterMap_cons_none hc]
      exact ih.cons c.name
    | some a =>
      rw [List.filterMap_cons_some hc, List.map_cons, List.map_cons, h c a hc]
      exact ih.cons_cons (name a)

theorem place_eq_ok {b b' : Buckets} (h : place mode columns keys b c = .ok b') :
    ∃ way, Goes mode keys c way ∧ b' = follow columns keys b c way := by
  rw [place] at h
  obtain ⟨way, hr, rfl⟩ := exists_of_map_eq_ok h
  exact ⟨way, goes_of_route hr, rfl⟩

/-- What each column adds to a list of the buckets, a whole sort adds in the order of the columns. -/
theorem placeAll_collects {α : Type} {held : Buckets → List α} {brought? : Column → Option α}
    (hfollow : ∀ b c way, Goes mode keys c way →
      held (follow columns keys b c way) = held b ++ (brought? c).toList)
    (h : placeAll mode columns keys b todo = (b', none)) : held b' = held b ++ todo.filterMap brought? := by
  induction todo generalizing b with
  | nil =>
    obtain ⟨rfl, -⟩ := Prod.mk.inj h
    simp
  | cons c todo ih =>
    rw [placeAll] at h
    cases hc : place mode columns keys b c with
    | error e =>
      rw [hc] at h
      cases h
    | ok b₁ =>
      rw [hc] at h
      obtain ⟨way, hgoes, rfl⟩ := place_eq_ok hc
      rw [ih h, hfollow b c way hgoes, List.append_assoc]
      cases hb : brought? c <;> simp [hb]

section
variable (h : placeAll mode columns keys b todo = (b', none))
include h

theorem primaryKeys_placeAll : b'.primaryKeys = b.primaryKeys ++ todo.filterMap primary? := by
  refine placeAll_collects (fun b c way hgoes => ?_) h
  cases way with
  | nowhere => rcases hgoes with hk | hk <;> simp [follow, primary?, hk]
  | primary => simp [follow, Buckets.addPrimary, primary?, show c.key = some "PRI" from hgoes]
  | foreign detail => simp [follow, Buckets.addForeign, primary?, hgoes.1]
  | secondary => simp [follow, Buckets.addSecondary, primary?, hgoes.1]
  | unique detail => rcases hgoes.2 with hk | hk <;> simp [follow, addUnique, primary?, hk]

theorem foreignKeys_placeAll : b'.foreignKeys = b.foreignKeys ++ todo.filterMap (foreign? keys) := by
  refine placeAll_collects (fun b c way hgoes => ?_) h
  cases way with
  | nowhere => rcases hgoes with hk | hk <;> simp [follow, foreign?, hk]
  | primary => simp [follow, Buckets.addPrimary, foreign?, show c.key = some "PRI" from hgoes]
  | foreign detail =>
    obtain ⟨hk, hf, hd⟩ := hgoes
    simp [follow, Buckets.addForeign, foreign?, hk, hf, Option.filter, hd]
  | secondary =>
    rcases hgoes.2 with hf | ⟨-, detail, hf, hd⟩
    · simp [follow, Buckets.addSecondary, foreign?, hgoes.1, hf]
    · simp [follow, Buckets.addSecondary, foreign?, hgoes.1, hf, hd]
  | unique detail =>
    rcases hgoes.2 with hk | ⟨hk, -, hd⟩
    · simp [follow, addUnique, foreign?, hk]
    · simp [follow, addUnique, foreign?, hk, hgoes.1, hd]

theorem secondaryIndexes_placeAll :
    b'.secondaryIndexes = b.secondaryIndexes ++ todo.filterMap (secondary? mode keys) := by
  refine placeAll_collects (fun b c way hgoes => ?_) h
  cases way with
  | nowhere => rcases hgoes with hk | hk <;> simp [follow, secondary?, hk]
  | primary => simp [follow, Buckets.addPrimary, secondary?, show c.key = some "PRI" from hgoes]
  | foreign detail =>
    obtain ⟨hk, hf, hd⟩ := hgoes
    simp [follow, Buckets.addForeign, secondary?, hk, hf, hd]
  | secondary =>
    rcases hgoes.2 with hf | ⟨rfl, detail, hf, hd⟩
    · simp [follow, Buckets.addSecondary, secondary?, hgoes.1, hf]
    · simp [follow, Buckets.addSecondary, secondary?, hgoes.1, hf, hd]
  | unique detail =>
    rcases hgoes.2 with hk | ⟨hk, rfl, hd⟩
    · simp [follow, addUnique, secondary?, hk]
    · simp [follow, addUnique, secondary?, hk, hgoes.1]

end

/-! ### The key of the table -/

/-- Is a column described as part of the primary key? -/
def hasPrimary (columns : List Column) : Bool := columns.any fun c => c.key == some "PRI"

theorem hasPrimary_iff : hasPrimary columns = true ↔ ∃ c ∈ columns, c.key = some "PRI" := by
  simp [hasPrimary]

theorem hasPrimary_eq_false_iff : hasPrimary columns = false ↔ ∀ c ∈ columns, c.key ≠ some "PRI" := by
  simp [hasPrimary]

theorem filterMap_primary? : columns.filterMap primary? = (columns.filter fun c => c.key == some "PRI").map (·.name) := by
  induction columns with
  | nil => rfl
  | cons c columns ih => by_cases hc : c.key = some "PRI" <;> simp [primary?, hc, ih]

theorem isEmpty_primaryKeys_placeAll (h : placeAll mode columns keys {} todo = (b', none)) :
    b'.primaryKeys.isEmpty = !hasPrimary todo := by
  rw [primaryKeys_placeAll h, filterMap_primary?, Bool.eq_iff_iff]
  simp [hasPrimary]

/-- A table whose columns all have a place keeps its primary key. One without a key is given one if it may be. -/
theorem classify_of_placeAll {o : ClassifyOptions} (h : placeAll mode columns keys {} columns = (b, none)) :
    classify mode o columns keys {} =
      if hasPrimary columns then (b, .ok columns)
      else if o.synthesis then (b.addPrimary o.idName, .ok (withKey columns o.idName))
      else (b, .error .noPrimaryKey) := by
  rw [classify, h]
  dsimp only
  rw [isEmpty_primaryKeys_placeAll h, Bool.not_not]
  cases hasPrimary columns
  · cases o.synthesis <;> rfl
  · rfl

/-- A sort that returns has put all columns in their place. -/
theorem classify_eq_ok {o : ClassifyOptions} {sorted : List Column} (h : classify mode o columns keys {} = (b', .ok sorted)) :
    ∃ b, placeAll mode columns keys {} columns = (b, none) ∧
      b' = (if hasPrimary columns then b else b.addPrimary o.idName) ∧
      sorted = if hasPrimary columns then columns else withKey columns o.idName := by
  rcases hplaced : placeAll mode columns keys {} columns with ⟨b, _ | e⟩
  · rw [classify_of_placeAll hplaced] at h
    split at h
    · next hp =>
      cases h
      exact ⟨_, rfl, (if_pos hp).symm, (if_pos hp).symm⟩
    · next hp =>
      split at h
      · cases h
        exact ⟨b, rfl, (if_neg hp).symm, (if_neg hp).symm⟩
      · cases h
  · rw [classify, hplaced] at h
    cases h

section
variable {o : ClassifyOptions} {sorted : List Column} (h : classify mode o columns keys {} = (b, .ok sorted))
include h

theorem primaryKeys_classify :
    b.primaryKeys = if hasPrimary columns then columns.filterMap primary? else [o.idName] := by
  obtain ⟨b₁, hplaced, rfl, -⟩ := classify_eq_ok h
  split
  · exact primaryKeys_placeAll hplaced
  · next hp =>
    have hnil : b₁.primaryKeys = [] := by simpa [hp] using isEmpty_primaryKeys_placeAll hplaced
    simp [Buckets.addPrimary, hnil]

theorem foreignKeys_classify : b.foreignKeys = columns.filterMap (foreign? keys) := by
  obtain ⟨b₁, hplaced, rfl, -⟩ := classify_eq_ok h
  have hforeign := foreignKeys_placeAll hplaced
  split <;> exact hforeign

theorem secondaryIndexes_classify : b.secondaryIndexes = columns.filterMap (secondary? mode keys) := by
  obtain ⟨b₁, hplaced, rfl, -⟩ := classify_eq_ok h
  have hsecondary := secondaryIndexes_placeAll hplaced
  split <;> exact hsecondary

end

end Classification
end SpannerSchema

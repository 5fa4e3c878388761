/-! Described columns: what the source database reports about one column of a table, and the mark that says how
    the column takes part in keys. -/

namespace SpannerSchema

/-- The part a column plays in the keys of its table. -/
inductive KeyMarker where
  | unmarked
  | primary
  | multiple
  | unique
deriving DecidableEq, Repr

namespace KeyMarker

/-- The text that stands for a marker in a description. -/
def text : KeyMarker → String
  | unmarked => ""
  | primary => "PRI"
  | multiple => "MUL"
  | unique => "UNI"

/-- The marker that a text stands for, case and blanks included. -/
def ofText? (s : String) : Option KeyMarker :=
  [unmarked, primary, multiple, unique].find? fun m => m.text == s

theorem ofText?_text (m : KeyMarker) : ofText? m.text = some m := by
  cases m <;> rfl

theorem ofText?_eq_some_iff {s : String} {m : KeyMarker} : ofText? s = some m ↔ s = m.text := by
  constructor
  · intro h
    have heq : (m.text == s) = true := List.find?_some (p := fun m : KeyMarker => m.text == s) h
    exact (beq_iff_eq.mp heq).symm
  · rintro rfl
    exact ofText?_text m

end KeyMarker

/-- A column of a described table. `type` is the type as the source database writes it; `key` is the marker as
reported, read only when keys are sorted. -/
structure Column where
  name : String
  type : String
  nullable : Bool := true
  initial : Option String := none
  key : Option String := some ""
  extra : String := ""
deriving DecidableEq, Repr

namespace Column

/-- The marker of a column; a column without one is unmarked. -/
def marker? (c : Column) : Option KeyMarker :=
  match c.key with
  | none => some .unmarked
  | some s => KeyMarker.ofText? s

theorem marker?_eq_unmarked_iff {c : Column} : c.marker? = some .unmarked ↔ c.key = none ∨ c.key = some "" := by
  cases h : c.key <;> simp [marker?, h, KeyMarker.ofText?_eq_some_iff, KeyMarker.text]

/-- A column with a marker other than none at all is reported with the text of the marker. -/
theorem marker?_eq_some_iff {c : Column} {m : KeyMarker} (hm : m ≠ .unmarked) :
    c.marker? = some m ↔ c.key = some m.text := by
  cases h : c.key <;> simp [marker?, h, KeyMarker.ofText?_eq_some_iff, hm.symm]

theorem marker?_eq_none_iff {c : Column} :
    c.marker? = none ↔ c.key ∉ [none, some "", some "PRI", some "MUL", some "UNI"] := by
  have hmem : c.key ∈ [none, some "", some "PRI", some "MUL", some "UNI"] ↔ ∃ m, c.marker? = some m := by
    constructor
    · intro h
      simp only [List.mem_cons, List.not_mem_nil, or_false] at h
      rcases h with h | h | h | h | h
      · exact ⟨.unmarked, marker?_eq_unmarked_iff.mpr (.inl h)⟩
      · exact ⟨.unmarked, marker?_eq_unmarked_iff.mpr (.inr h)⟩
      · exact ⟨.primary, (marker?_eq_some_iff (by simp)).mpr h⟩
      · exact ⟨.multiple, (marker?_eq_some_iff (by simp)).mpr h⟩
      · exact ⟨.unique, (marker?_eq_some_iff (by simp)).mpr h⟩
    · rintro ⟨m, hm⟩
      cases m with
      | unmarked => rcases marker?_eq_unmarked_iff.mp hm with h | h <;> simp [h]
      | primary => simp [(marker?_eq_some_iff (by simp)).mp hm, KeyMarker.text]
      | multiple => simp [(marker?_eq_some_iff (by simp)).mp hm, KeyMarker.text]
      | unique => simp [(marker?_eq_some_iff (by simp)).mp hm, KeyMarker.text]
  rw [hmem, ← Option.isSome_iff_exists, Bool.not_eq_true, Option.isSome_eq_false_iff,
    Option.isNone_iff_eq_none]

/-- The key column that a table without a primary key is given. -/
def synthesized (name : String) : Column where
  name := name
  type := "biginteger unsigned"
  nullable := false
  key := some KeyMarker.primary.text
  extra := "auto_increment"

end Column

/-- A row of a table description before its nulls are read as empty texts. -/
structure DescribedRow where
  name : String
  type : String
  nullable : Bool
  key : Option String
  initial : Option String
  extra : Option String
deriving DecidableEq, Repr

/-- The column that a row describes. -/
def DescribedRow.column (r : DescribedRow) : Column where
  name := r.name
  type := r.type
  nullable := r.nullable
  initial := r.initial
  key := some (r.key.getD "")
  extra := r.extra.getD ""

end SpannerSchema

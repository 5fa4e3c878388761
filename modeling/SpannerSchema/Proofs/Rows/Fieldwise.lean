import SpannerSchema.Failure
import SpannerSchema.Proofs.Rows.FirstFault

/-! What converting leaves of records. Each field goes to a field of the same name at the same place: its value stays, or, in
    a column of decimal type, null stays null and all else becomes the decimal that it stands for. So a second conversion
    finds nothing to do. The fault of a list of records is that of the first field, row by row, that stands for no decimal. -/

namespace SpannerSchema
namespace Conversion

variable {columns : List Column} {name shown : String} {v v' : Value} {d : Decimal} {f g : String × Value}
  {fields fields' : List (String × Value)} {rows converted : List (List (String × Value))} {vs : List Value}
  {e : ConversionError}

/-! ### Columns -/

/-- Some column of that name is of decimal type. Others of the name need not be. -/
def IsConvertedName (columns : List Column) (name : String) : Prop :=
  ∃ c ∈ columns, c.name = name ∧ SourceType.isNumeric c.type = true

theorem mem_convertedNames_iff : name ∈ convertedNames columns ↔ IsConvertedName columns name := by
  simp only [convertedNames, IsConvertedName, List.mem_eraseDups, List.mem_map, List.mem_filter, and_assoc]
  exact exists_congr fun c => and_congr_right fun _ => and_comm

/-! ### Values -/

/-- The value stands for the decimal: a decimal for itself, any other value but null for what its text denotes. -/
inductive StandsFor : Value → Decimal → Prop where
  | decimal (d : Decimal) : StandsFor (.decimal d) d
  | text {v : Value} {d : Decimal} (hnull : v ≠ .null) (hother : ∀ d', v ≠ .decimal d')
      (h : Decimal.ofText? v.display = some d) : StandsFor v d

theorem StandsFor.ne_null (h : StandsFor v d) : v ≠ .null := by
  cases h with
  | decimal => rintro ⟨⟩
  | text hnull => exact hnull

theorem standsFor_decimal_iff {d' : Decimal} : StandsFor (.decimal d') d ↔ d = d' := by
  constructor
  · rintro (_ | ⟨-, hother, -⟩)
    · rfl
    · exact absurd rfl (hother d')
  · rintro rfl
    exact .decimal d

theorem standsFor_iff_ofText? (hnull : v ≠ .null) (hother : ∀ d', v ≠ .decimal d') :
    StandsFor v d ↔ Decimal.ofText? v.display = some d := by
  constructor
  · rintro (_ | ⟨-, -, h⟩)
    · exact absurd rfl (hother d)
    · exact h
  · exact .text hnull hother

theorem toNumeric_eq_ok_iff :
    toNumeric v = .ok v' ↔ (v = .null ∧ v' = .null) ∨ ∃ d, StandsFor v d ∧ v' = .decimal d := by
  unfold toNumeric
  split
  · have hnone (d : Decimal) : ¬StandsFor .null d := fun h => h.ne_null rfl
    simp [hnone, eq_comm]
  · simp [standsFor_decimal_iff, eq_comm]
  · next hnull hother =>
    have hv : v ≠ .null := hnull
    simp only [standsFor_iff_ofText? hnull hother]
    cases Decimal.ofText? v.display <;> simp [hv, eq_comm]

theorem toNumeric_eq_error_iff :
    toNumeric v = .error shown ↔ v ≠ .null ∧ (∀ d, ¬StandsFor v d) ∧ shown = v.quotedText := by
  unfold toNumeric
  split
  · simp
  · simp [standsFor_decimal_iff]
  · next hnull hother =>
    have hv : v ≠ .null := hnull
    simp only [standsFor_iff_ofText? hnull hother]
    cases Decimal.ofText? v.display <;> simp [hv, eq_comm]

/-! ### Fields -/

/-- What a field `g` is after conversion if it was `f`. -/
structure FieldTo (columns : List Column) (f g : String × Value) : Prop where
  name : g.1 = f.1
  kept : ¬IsConvertedName columns f.1 → g.2 = f.2
  null : IsConvertedName columns f.1 → (g.2 = .null ↔ f.2 = .null)
  decimal : IsConvertedName columns f.1 → f.2 ≠ .null → ∃ d, StandsFor f.2 d ∧ g.2 = .decimal d

/-- What a field is after conversion is what it is after another. -/
theorem FieldTo.again (h : FieldTo columns f g) : FieldTo columns g g := by
  constructor
  case name => rfl
  case kept => exact fun _ => rfl
  case null => exact fun _ => Iff.rfl
  case decimal =>
    rw [h.name]
    intro hname hnull
    -- The value is a decimal by now, and a decimal stands for itself.
    obtain ⟨d, -, hd⟩ := h.decimal hname fun hf => hnull ((h.null hname).mpr hf)
    exact ⟨d, hd ▸ .decimal d, hd⟩

theorem fieldTo_iff :
    FieldTo columns f g ↔ g.1 = f.1 ∧ convertField (convertedNames columns) f.1 f.2 = .ok g.2 := by
  unfold convertField
  by_cases hname : IsConvertedName columns f.1
  · -- In a converted column `kept` says nothing, and the rest of `FieldTo` is what `toNumeric` does.
    have hvalue : FieldTo columns f g ↔ g.1 = f.1 ∧ toNumeric f.2 = .ok g.2 := by
      rw [toNumeric_eq_ok_iff]
      constructor
      · intro h
        refine ⟨h.name, ?_⟩
        by_cases hnull : f.2 = .null
        · exact .inl ⟨hnull, (h.null hname).mpr hnull⟩
        · exact .inr (h.decimal hname hnull)
      · rintro ⟨hsame, ⟨hf, hg⟩ | ⟨d, hd, hg⟩⟩
        · exact ⟨hsame, fun hnot => absurd hname hnot, fun _ => iff_of_true hg hf, fun _ hnull => absurd hf hnull⟩
        · have hne : g.2 ≠ .null := by
            rw [hg]
            rintro ⟨⟩
          exact ⟨hsame, fun hnot => absurd hname hnot, fun _ => iff_of_false hne hd.ne_null, fun _ _ => ⟨d, hd, hg⟩⟩
    rw [if_pos (by simpa using mem_convertedNames_iff.mpr hname), hvalue]
    cases toNumeric f.2 <;> simp
  · rw [if_neg (by simpa using mt mem_convertedNames_iff.mp hname), Except.ok.injEq]
    constructor
    · exact fun h => ⟨h.name, (h.kept hname).symm⟩
    · rintro ⟨hsame, hkept⟩
      exact ⟨hsame, fun _ => hkept.symm, fun h => absurd h hname, fun h => absurd h hname⟩

theorem convertFields_eq_ok_iff_fieldTo :
    convertFields (convertedNames columns) fields = .ok fields' ↔ List.Forall₂ (FieldTo columns) fields fields' := by
  simp only [convertFields_eq_ok_iff, ← fieldTo_iff]

/-! ### Rows -/

theorem convertRow_record_eq_ok_iff : convertRow (convertedNames columns) (.record fields) = .ok v ↔
    ∃ fields', List.Forall₂ (FieldTo columns) fields fields' ∧ v = .record fields' := by
  simp only [convertRow, ← convertFields_eq_ok_iff_fieldTo]
  cases convertFields (convertedNames columns) fields <;> simp [Except.map, eq_comm]

theorem convertRows_records_eq_ok_iff : convertRows (convertedNames columns) (rows.map .record) = .ok vs ↔
    ∃ converted, List.Forall₂ (List.Forall₂ (FieldTo columns)) rows converted ∧ vs = converted.map .record := by
  simp only [convertRows_eq_ok_iff, List.forall₂_map_left_iff, convertRow_record_eq_ok_iff]
  constructor
  · intro h
    induction h with
    | nil => exact ⟨[], .nil, rfl⟩
    | cons hrow _ ih =>
      obtain ⟨fields', hfields, rfl⟩ := hrow
      obtain ⟨converted, hconverted, rfl⟩ := ih
      exact ⟨fields' :: converted, .cons hfields hconverted, rfl⟩
  · rintro ⟨converted, h, rfl⟩
    rw [List.forall₂_map_right_iff]
    exact h.imp fun _ fields' hfields => ⟨fields', hfields, rfl⟩

/-- What comes of items one by one comes of itself, if that is so for each. -/
theorem forall₂_again {α : Type} {R : α → α → Prop} {as bs : List α} (hR : ∀ a b, R a b → R b b)
    (h : List.Forall₂ R as bs) : List.Forall₂ R bs bs := by
  induction h with
  | nil => exact .nil
  | cons hab _ ih => exact .cons (hR _ _ hab) ih

/-! ### Faults -/

/-- The field is to be converted and cannot be. -/
structure Unconvertible (columns : List Column) (f : String × Value) : Prop where
  name : IsConvertedName columns f.1
  ne_null : f.2 ≠ .null
  noDecimal : ∀ d, ¬StandsFor f.2 d

/-- The first field that cannot be converted, row by row and field by field. -/
structure FirstUnconvertible (columns : List Column) (rows : List (List (String × Value))) (f : String × Value) : Prop where
  place : ∃ before after, rows.flatten = before ++ f :: after ∧ ∀ g ∈ before, ¬Unconvertible columns g
  fault : Unconvertible columns f

theorem fieldFault?_eq_some_iff_unconvertible : fieldFault? (convertedNames columns) f = some e ↔
    Unconvertible columns f ∧ e = .notNumeric f.1 f.2.quotedText := by
  rw [fieldFault?_eq_some_iff, mem_convertedNames_iff]
  constructor
  · rintro ⟨hname, shown, hshown, rfl⟩
    obtain ⟨hnull, hdecimal, rfl⟩ := toNumeric_eq_error_iff.mp hshown
    exact ⟨⟨hname, hnull, hdecimal⟩, rfl⟩
  · rintro ⟨h, rfl⟩
    exact ⟨h.name, _, toNumeric_eq_error_iff.mpr ⟨h.ne_null, h.noDecimal, rfl⟩, rfl⟩

theorem fieldFault?_eq_none_iff_not_unconvertible :
    fieldFault? (convertedNames columns) f = none ↔ ¬Unconvertible columns f := by
  simp [Option.eq_none_iff_forall_ne_some, fieldFault?_eq_some_iff_unconvertible]

/-- The faults of records are those of all their fields. -/
theorem findSome?_rowFault?_records (names : List String) (rows : List (List (String × Value))) :
    (rows.map Value.record).findSome? (rowFault? names) = rows.flatten.findSome? (fieldFault? names) := by
  induction rows with
  | nil => rfl
  | cons fields rows ih =>
    rw [List.map_cons, List.findSome?_cons, ih, List.flatten_cons, List.findSome?_append, rowFault?]
    cases fields.findSome? (fieldFault? names) <;> rfl

theorem convertRows_records_eq_error_iff : convertRows (convertedNames columns) (rows.map .record) = .error e ↔
    ∃ f, FirstUnconvertible columns rows f ∧ e = .notNumeric f.1 f.2.quotedText := by
  rw [convertRows_eq_error_iff, findSome?_rowFault?_records, List.findSome?_eq_some_iff]
  simp only [fieldFault?_eq_some_iff_unconvertible, fieldFault?_eq_none_iff_not_unconvertible]
  constructor
  · rintro ⟨before, f, after, hplace, ⟨hfault, rfl⟩, hbefore⟩
    exact ⟨f, ⟨⟨before, after, hplace, hbefore⟩, hfault⟩, rfl⟩
  · rintro ⟨f, ⟨⟨before, after, hplace, hbefore⟩, hfault⟩, rfl⟩
    exact ⟨before, f, after, hplace, ⟨hfault, rfl⟩, hbefore⟩

theorem exists_convertRows_records_iff : (∃ vs, convertRows (convertedNames columns) (rows.map .record) = .ok vs) ↔
    ∀ fields ∈ rows, ∀ f ∈ fields, ¬Unconvertible columns f := by
  simp only [← exists_convertRows_iff, List.forall_mem_map, rowFault?, List.findSome?_eq_none_iff,
    fieldFault?_eq_none_iff_not_unconvertible]

/-! ### The whole -/

/-- How the records `rows` of a table with the columns `columns` are converted. -/
structure ConvertsFieldwise (columns : List Column) (rows : List (List (String × Value)))
    (result : Except ConversionError (List Value)) : Prop where
  succeeds : (∃ vs, result = .ok vs) ↔ ∀ fields ∈ rows, ∀ f ∈ fields, ¬Unconvertible columns f
  returns : ∀ vs, result = .ok vs ↔
    ∃ converted, List.Forall₂ (List.Forall₂ (FieldTo columns)) rows converted ∧ vs = converted.map .record
  again : ∀ vs, result = .ok vs → convertRows (convertedNames columns) vs = .ok vs
  fails : ∀ e, result = .error e ↔ ∃ f, FirstUnconvertible columns rows f ∧ e = .notNumeric f.1 f.2.quotedText
  named : ∀ e, result = .error e → (Failure.conversion e).title? = some "MalformedInputError" ∧
    ∃ f, FirstUnconvertible columns rows f ∧
      e.message? = some ("Column " ++ f.1 ++ ": " ++ notNumericText f.2.quotedText)

/-- Records are converted field by field, once and for all, or refused for the first field that cannot be. -/
theorem converts_fieldwise (columns : List Column) (rows : List (List (String × Value))) :
    ConvertsFieldwise columns rows (convertRows (convertedNames columns) (rows.map .record)) := by
  constructor
  case succeeds => exact exists_convertRows_records_iff
  case returns => exact fun _ => convertRows_records_eq_ok_iff
  case again =>
    intro vs h
    obtain ⟨converted, hconverted, rfl⟩ := convertRows_records_eq_ok_iff.mp h
    have hagain : List.Forall₂ (List.Forall₂ (FieldTo columns)) converted converted :=
      forall₂_again (fun _ _ => forall₂_again fun _ _ => FieldTo.again) hconverted
    exact convertRows_records_eq_ok_iff.mpr ⟨converted, hagain, rfl⟩
  case fails => exact fun _ => convertRows_records_eq_error_iff
  case named =>
    intro e h
    obtain ⟨f, hfirst, rfl⟩ := convertRows_records_eq_error_iff.mp h
    exact ⟨rfl, f, hfirst, rfl⟩

/-- A note may hold anything, and a field of another name too. -/
example : convertRows ["price"] [.record [("note", .list [.text "1.0"]), ("price", .text " 1.50 ")],
      .record [("price", .null), ("PRICE", .text "much")]]
    = .ok [.record [("note", .list [.text "1.0"]), ("price", .decimal (.finite false 150 (-2)))],
      .record [("price", .null), ("PRICE", .text "much")]] := by
  rfl

end Conversion
end SpannerSchema

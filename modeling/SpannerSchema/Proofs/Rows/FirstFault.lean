import Mathlib.Data.List.Forall2
import SpannerSchema.Rows.Conversion

/-! Where converting rows stops: at the first row, in their order, that is no row or has a field that cannot be
    converted, and in that row at the first such field. An object stops where a record with its attributes would,
    though its copy is changed on the way and not made anew. Where nothing stops it, each field and each row is
    converted on its own. -/

namespace SpannerSchema
namespace Conversion

/-- Why a field cannot be converted: it is to be, and its value is no decimal. -/
def fieldFault? (names : List String) (f : String × Value) : Option ConversionError :=
  if f.1 ∈ names then
    match toNumeric f.2 with
    | .ok _ => none
    | .error shown => some (.notNumeric f.1 shown)
  else none

/-- Why a row cannot be converted. -/
def rowFault? (names : List String) : Value → Option ConversionError
  | .record fields => fields.findSome? (fieldFault? names)
  | .object attributes => attributes.findSome? (fieldFault? names)
  | _ => some .notRow

variable {names : List String} {name : String} {f : String × Value} {fields fields' copy : List (String × Value)}
  {v : Value} {vs vs' : List Value} {e : ConversionError}

/-! ### Fields -/

theorem fieldFault?_eq_some_iff : fieldFault? names f = some e ↔
    f.1 ∈ names ∧ ∃ shown, toNumeric f.2 = .error shown ∧ e = .notNumeric f.1 shown := by
  unfold fieldFault?
  by_cases hname : f.1 ∈ names
  · cases toNumeric f.2 with
    | ok v => simp [hname]
    | error shown => simp [hname, eq_comm]
  · simp [hname]

theorem fieldFault?_eq_none_iff : fieldFault? names f = none ↔ (f.1 ∈ names → ∃ v, toNumeric f.2 = .ok v) := by
  unfold fieldFault?
  by_cases hname : f.1 ∈ names
  · cases toNumeric f.2 <;> simp [hname]
  · simp [hname]

theorem convertField_eq_error_iff : convertField names name v = .error e ↔ fieldFault? names (name, v) = some e := by
  unfold convertField fieldFault?
  by_cases hname : name ∈ names
  · cases toNumeric v <;> simp [hname]
  · simp [hname]

/-- Work that fails with a fault, if there is one, comes to something if there is none. -/
theorem eq_none_iff_exists_ok {ε α : Type} {x : Except ε α} {fault? : Option ε}
    (h : ∀ e, x = .error e ↔ fault? = some e) : fault? = none ↔ ∃ a, x = .ok a := by
  cases x with
  | error e => simp [(h e).mp rfl]
  | ok a =>
    refine ⟨fun _ => ⟨a, rfl⟩, fun _ => Option.eq_none_iff_forall_ne_some.mpr fun e he => ?_⟩
    cases (h e).mpr he

theorem exists_convertField_iff : fieldFault? names (name, v) = none ↔ ∃ v', convertField names name v = .ok v' :=
  eq_none_iff_exists_ok fun _ => convertField_eq_error_iff

theorem convertFields_eq_error_iff :
    convertFields names fields = .error e ↔ fields.findSome? (fieldFault? names) = some e := by
  induction fields with
  | nil => simp [convertFields]
  | cons f fields ih =>
    obtain ⟨name, v⟩ := f
    rw [convertFields, List.findSome?_cons]
    cases hfield : convertField names name v with
    | error e' =>
      rw [convertField_eq_error_iff.mp hfield]
      simp
    | ok v' =>
      rw [exists_convertField_iff.mpr ⟨v', hfield⟩, ← ih]
      cases convertFields names fields <;> simp

/-- The attributes that are set before a fault do not show in it. -/
theorem setConverted_eq_error_iff :
    setConverted names copy fields = .error e ↔ fields.findSome? (fieldFault? names) = some e := by
  induction fields generalizing copy with
  | nil => simp [setConverted]
  | cons f fields ih =>
    obtain ⟨name, v⟩ := f
    rw [setConverted, List.findSome?_cons]
    by_cases hname : name ∈ names
    · rw [if_pos (by simpa using hname)]
      cases hfield : convertField names name v with
      | error e' =>
        rw [convertField_eq_error_iff.mp hfield]
        simp
      | ok v' =>
        rw [exists_convertField_iff.mpr ⟨v', hfield⟩]
        exact ih
    · rw [if_neg (by simpa using hname), fieldFault?, if_neg hname]
      exact ih

/-! ### Rows -/

theorem convertRow_eq_error_iff : convertRow names v = .error e ↔ rowFault? names v = some e := by
  cases v with
  | record fields =>
    rw [convertRow, rowFault?, ← convertFields_eq_error_iff]
    cases convertFields names fields <;> simp [Except.map]
  | object attributes =>
    have hset : setConverted names attributes attributes = .error e ↔ _ := setConverted_eq_error_iff
    rw [convertRow, rowFault?, ← hset]
    cases setConverted names attributes attributes <;> simp [Except.map]
  | _ => simp [convertRow, rowFault?]

theorem exists_convertRow_iff : rowFault? names v = none ↔ ∃ v', convertRow names v = .ok v' :=
  eq_none_iff_exists_ok fun _ => convertRow_eq_error_iff

/-- Converting rows fails with the first fault in their order. -/
theorem convertRows_eq_error_iff :
    convertRows names vs = .error e ↔ vs.findSome? (rowFault? names) = some e := by
  induction vs with
  | nil => simp [convertRows]
  | cons v vs ih =>
    rw [convertRows, List.findSome?_cons]
    cases hrow : convertRow names v with
    | error e' =>
      rw [convertRow_eq_error_iff.mp hrow]
      simp
    | ok v' =>
      rw [exists_convertRow_iff.mpr ⟨v', hrow⟩, ← ih]
      cases convertRows names vs <;> simp

theorem exists_convertRows_iff :
    (∀ v ∈ vs, rowFault? names v = none) ↔ ∃ vs', convertRows names vs = .ok vs' := by
  rw [← List.findSome?_eq_none_iff]
  exact eq_none_iff_exists_ok fun _ => convertRows_eq_error_iff

/-! ### Without a fault -/

theorem convertFields_eq_ok_iff : convertFields names fields = .ok fields' ↔
    List.Forall₂ (fun f g => g.1 = f.1 ∧ convertField names f.1 f.2 = .ok g.2) fields fields' := by
  induction fields generalizing fields' with
  | nil => simp [convertFields, eq_comm]
  | cons f fields ih =>
    obtain ⟨name, v⟩ := f
    rw [convertFields, List.forall₂_cons_left_iff]
    constructor
    · intro h
      split at h
      · cases h
      · next v' hfield =>
        split at h
        · cases h
        · next rest hrest =>
          cases h
          exact ⟨(name, v'), rest, ⟨rfl, hfield⟩, ih.mp hrest, rfl⟩
    · rintro ⟨⟨name', v'⟩, rest, ⟨hname, hfield⟩, hrest, rfl⟩
      obtain rfl : name' = name := hname
      rw [hfield, ih.mpr hrest]

theorem convertRows_eq_ok_iff :
    convertRows names vs = .ok vs' ↔ List.Forall₂ (fun v v' => convertRow names v = .ok v') vs vs' := by
  induction vs generalizing vs' with
  | nil => simp [convertRows, eq_comm]
  | cons v vs ih =>
    rw [convertRows, List.forall₂_cons_left_iff]
    constructor
    · intro h
      split at h
      · cases h
      · next v' hrow =>
        split at h
        · cases h
        · next rest hrest =>
          cases h
          exact ⟨v', rest, hrow, ih.mp hrest, rfl⟩
    · rintro ⟨v', rest, hrow, hrest, rfl⟩
      rw [hrow, ih.mpr hrest]

end Conversion
end SpannerSchema

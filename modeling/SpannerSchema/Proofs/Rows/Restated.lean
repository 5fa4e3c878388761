import SpannerSchema.Proofs.Json.RoundTrip
import SpannerSchema.Proofs.Number.DecimalText
import SpannerSchema.Proofs.Rows.FirstFault

/-! Converting rows that have been converted before. What is written of a decimal is its text, so rows are read back with
    the text of each decimal in its place. The text is that of a bounded decimal, which converting restores. -/

namespace SpannerSchema
namespace Conversion
open Json

variable {names : List String} {name : String} {f : String × Value} {v v' : Value} {fields fields' : List (String × Value)}
  {vs vs' : List Value}

/-! ### Values -/

/-- A value in a column of decimal type, once it has been converted. -/
inductive IsNumeric : Value → Prop where
  | null : IsNumeric .null
  | decimal {d : Decimal} (h : d.IsBounded) : IsNumeric (.decimal d)

/-- A value as it is read back. -/
def restated : Value → Value
  | .decimal d => .text d.text
  | v => v

theorem restated_of_isRead (h : IsRead v) : restated v = v := by
  cases h <;> rfl

theorem isNumeric_of_toNumeric (hv : IsRead v) (h : toNumeric v = .ok v') : IsNumeric v' := by
  unfold toNumeric at h
  split at h
  · cases h
    exact .null
  · cases hv
  · split at h
    · next hread =>
      cases h
      exact .decimal (Decimal.isBounded_of_ofText? hread)
    · cases h

theorem toNumeric_restated (h : IsNumeric v) : toNumeric (restated v) = .ok v := by
  cases h with
  | null => rfl
  | @decimal d hd =>
    have hread : Decimal.ofText? (Value.display (.text d.text)) = some d := Decimal.ofText?_text hd
    simp only [restated, toNumeric, hread]

theorem isRead_restated_of_isNumeric (h : IsNumeric v) : IsRead (restated v) := by
  cases h with
  | null => exact .null
  | decimal => exact .text _

/-! ### Fields -/

/-- A field once its row has been converted. -/
def IsConverted (names : List String) (f : String × Value) : Prop :=
  if names.contains f.1 then IsNumeric f.2 else IsRead f.2

def restatedField (f : String × Value) : String × Value := (f.1, restated f.2)

theorem isConverted_of_convertField (hv : IsRead v) (h : convertField names name v = .ok v') :
    IsConverted names (name, v') := by
  unfold convertField at h
  unfold IsConverted
  split at h
  · next hname =>
    rw [if_pos hname]
    split at h
    · next hnumeric =>
      cases h
      exact isNumeric_of_toNumeric hv hnumeric
    · cases h
  · next hname =>
    cases h
    rwa [if_neg hname]

theorem convertField_restatedField (h : IsConverted names f) : convertField names f.1 (restated f.2) = .ok f.2 := by
  unfold IsConverted at h
  unfold convertField
  split at h
  · next hname => simp only [if_pos hname, toNumeric_restated h]
  · next hname => rw [if_neg hname, restated_of_isRead h]

theorem isRead_restatedField (h : IsConverted names f) : IsRead (restatedField f).2 := by
  unfold IsConverted at h
  split at h
  · exact isRead_restated_of_isNumeric h
  · rw [restatedField, restated_of_isRead h]
    exact h

/-- Converting keeps the names of the fields. -/
theorem map_fst_of_convertFields (h : convertFields names fields = .ok fields') :
    fields'.map (·.1) = fields.map (·.1) := by
  rw [convertFields_eq_ok_iff] at h
  induction h with
  | nil => rfl
  | cons hfield _ ih => rw [List.map_cons, List.map_cons, hfield.1, ih]

theorem isConverted_of_convertFields (hfields : ∀ f ∈ fields, IsRead f.2) (h : convertFields names fields = .ok fields') :
    ∀ f ∈ fields', IsConverted names f := by
  rw [convertFields_eq_ok_iff] at h
  induction h with
  | nil => simp
  | @cons f g _ _ hfield _ ih =>
    obtain ⟨hname, hvalue⟩ := hfield
    obtain ⟨hfirst, hrest⟩ := List.forall_mem_cons.mp hfields
    have hconverted : IsConverted names (f.1, g.2) := isConverted_of_convertField hfirst hvalue
    rw [← hname] at hconverted
    exact List.forall_mem_cons.mpr ⟨hconverted, ih hrest⟩

theorem convertFields_restated (h : ∀ f ∈ fields, IsConverted names f) :
    convertFields names (fields.map restatedField) = .ok fields := by
  rw [convertFields_eq_ok_iff, List.forall₂_map_left_iff, List.forall₂_same]
  exact fun f hf => ⟨rfl, convertField_restatedField (h f hf)⟩

/-! ### Rows -/

/-- A row that has been read and converted. -/
structure IsConvertedRow (names : List String) (v : Value) : Prop where
  fields : ∃ fields, v = .record fields ∧ (fields.map (·.1)).Nodup ∧ ∀ f ∈ fields, IsConverted names f

def restatedRow : Value → Value
  | .record fields => .record (fields.map restatedField)
  | v => v

theorem isConvertedRow_of_convertRow (hv : IsRead v) (h : convertRow names v = .ok v') : IsConvertedRow names v' := by
  cases hv with
  | record hnames hfields =>
    rename_i fields
    cases hconvert : convertFields names fields with
    | error e =>
      rw [convertRow, hconvert] at h
      cases h
    | ok fields' =>
      rw [convertRow, hconvert] at h
      cases h
      have hsame := map_fst_of_convertFields hconvert
      exact ⟨fields', rfl, hsame ▸ hnames, isConverted_of_convertFields hfields hconvert⟩
  | null | bool | int | float | text | list => cases h

theorem convertRow_restatedRow (h : IsConvertedRow names v) : convertRow names (restatedRow v) = .ok v := by
  obtain ⟨fields, rfl, -, hfields⟩ := h.fields
  rw [restatedRow, convertRow, convertFields_restated hfields]
  rfl

theorem isRead_restatedRow (h : IsConvertedRow names v) : IsRead (restatedRow v) := by
  obtain ⟨fields, rfl, hnames, hfields⟩ := h.fields
  constructor
  case hnames =>
    rw [List.map_map]
    exact hnames
  case h =>
    intro g hg
    obtain ⟨f, hf, rfl⟩ := List.mem_map.mp hg
    exact isRead_restatedField (hfields f hf)

theorem isConvertedRow_of_convertRows (hvs : ∀ v ∈ vs, IsRead v) (h : convertRows names vs = .ok vs') :
    ∀ v ∈ vs', IsConvertedRow names v := by
  rw [convertRows_eq_ok_iff] at h
  induction h with
  | nil => simp
  | cons hrow _ ih =>
    obtain ⟨hfirst, hrest⟩ := List.forall_mem_cons.mp hvs
    exact List.forall_mem_cons.mpr ⟨isConvertedRow_of_convertRow hfirst hrow, ih hrest⟩

/-- Converting the restated rows gives back the converted rows. -/
theorem convertRows_restated (h : ∀ v ∈ vs, IsConvertedRow names v) :
    convertRows names (vs.map restatedRow) = .ok vs := by
  rw [convertRows_eq_ok_iff, List.forall₂_map_left_iff, List.forall₂_same]
  exact fun v hv => convertRow_restatedRow (h v hv)

theorem isRead_restatedRows (h : ∀ v ∈ vs, IsConvertedRow names v) : IsRead (.list (vs.map restatedRow)) := by
  refine .list fun w hw => ?_
  obtain ⟨v, hv, rfl⟩ := List.mem_map.mp hw
  exact isRead_restatedRow (h v hv)

/-! ### What is written -/

theorem valueChars_restated (depth : Nat) (v : Value) : valueChars depth (restated v) = valueChars depth v := by
  cases v with
  | decimal d =>
    rw [restated, valueChars, valueChars, Decimal.text, String.toList_ofList]
  | _ => rfl

theorem valueChars_restatedRow (depth : Nat) (v : Value) : valueChars depth (restatedRow v) = valueChars depth v := by
  cases v with
  | record fields =>
    have hfield (f : String × Value) : fieldText (depth + 1) (restatedField f) = fieldText (depth + 1) f := by
      rw [fieldText, restatedField, valueChars_restated, fieldText]
    rw [restatedRow, valueChars, valueChars, fieldChars_eq, fieldChars_eq, List.map_map]
    exact congrArg _ (List.map_congr_left fun f _ => hfield f)
  | _ => rfl

/-- Rows and what is read back of them are written in the same way. -/
theorem render_restatedRows (vs : List Value) : render (.list (vs.map restatedRow)) = render (.list vs) := by
  rw [render, render, valueChars, valueChars, itemChars_eq, itemChars_eq, List.map_map]
  exact congrArg (fun parts => String.ofList (block '[' ']' 0 parts ++ ['\n']))
    (List.map_congr_left fun v _ => valueChars_restatedRow 1 v)

/-- What is written of converted rows is read back as rows that convert to them. -/
theorem parse_converted (hvs : ∀ v ∈ vs, IsRead v) (h : convertRows names vs = .ok vs') :
    ∃ again, parse (render (.list vs')) = .ok (.list again) ∧ IsRead (.list again) ∧
      render (.list again) = render (.list vs') ∧ convertRows names again = .ok vs' := by
  have hconverted := isConvertedRow_of_convertRows hvs h
  have hread := isRead_restatedRows hconverted
  have hrender := render_restatedRows vs'
  exact ⟨vs'.map restatedRow, hrender ▸ parse_render hread, hread, hrender, convertRows_restated hconverted⟩

end Conversion
end SpannerSchema

import SpannerSchema.Proofs.Rows.Fieldwise
import SpannerSchema.Proofs.Rows.Restated

/-! Decimals that are given exactly. An integer, or a text that denotes a number, is written as a string that denotes the same
    number, with the same exponent for its last digit, whatever the number of its digits. -/

namespace SpannerSchema
namespace Decimal
open Text

variable {cs : List Char} {c : Nat} {x : Int} {negative : Bool} {q : ℚ}

/-- The text denotes the number `q` with the exponent `x`, and no other. -/
def DenotesJust (q : ℚ) (x : Int) (cs : List Char) : Prop := ∀ q' x', Denotes q' x' cs ↔ q' = q ∧ x' = x

theorem denotesJust_chars (negative : Bool) (c : Nat) (x : Int) :
    DenotesJust (valueOf negative c x) x (finite negative c x).chars :=
  fun _ _ => (spelled_chars negative c x).denotes_iff

theorem isPart_chars (negative : Bool) (c : Nat) (x : Int) : ∀ d ∈ (finite negative c x).chars, IsPart d :=
  List.forall_mem_append.mpr ⟨(isSign_signText negative).isPart, (spells_bodyText c x).isNumeral.isPart⟩

/-- An integer is written as digits with its sign. -/
theorem spelled_ofInt (n : Int) : Spelled (decide (n < 0)) n.natAbs 0 (Numeral.ofInt n) := by
  have hdigits (k : Nat) : IsNumeral k 0 (digitChars k) := by
    have hnone : Digits [] := fun _ hd => by cases hd
    have hparts := IsNumeral.parts (x := 0) (c := k) (digits_digitChars k) hnone (by simp [digitChars_ne_nil k]) (.none rfl) .none
      (by simp) rfl
    rwa [List.append_nil, List.append_nil] at hparts
  cases n with
  | ofNat k => exact spelled_of_isSign .none (hdigits k)
  | negSucc k =>
    rw [decide_eq_true (Int.negSucc_lt_zero k)]
    exact spelled_of_isSign .minus (hdigits (k + 1))

theorem valueOf_natAbs (n : Int) : valueOf (decide (n < 0)) n.natAbs 0 = n := by
  have hsigned : signed (decide (n < 0)) n.natAbs = n := by
    unfold signed
    by_cases hn : n < 0
    · rw [if_pos (decide_eq_true hn)]
      omega
    · rw [if_neg (by simpa using hn)]
      omega
  rw [valueOf, hsigned, zpow_zero, mul_one]

end Decimal

namespace Json
open Text

variable {cs : List Char}

/-- A number is written as it is. -/
theorem flatMap_escapeChar_of_isPart (h : ∀ c ∈ cs, Decimal.IsPart c) : cs.flatMap escapeChar = cs := by
  have hchar {c : Char} (hc : Decimal.IsPart c) : escapeChar c = [c] := by
    rcases hc with hc | hc
    · have hmarked : c ∉ marked := by
        intro hmem
        have hnone : marked.all (fun d => !d.isDigit) = true := by decide
        have hdigit := List.all_eq_true.mp hnone c hmem
        rw [hc] at hdigit
        cases hdigit
      have hbounds := toNat_of_isDigit hc
      rw [escapeChar_of_not_marked hmarked, if_neg (by omega)]
    · simp only [List.mem_cons, List.not_mem_nil, or_false] at hc
      rcases hc with rfl | rfl | rfl | rfl | rfl <;> decide
  rw [List.flatMap_congr fun c hc => hchar (h c hc)]
  exact List.flatMap_singleton' cs

end Json

namespace Conversion
open Json Decimal

variable {columns : List Column} {name : String} {v : Value} {negative : Bool} {c : Nat} {x : Int} {q : ℚ}
  {f g : String × Value} {rows : List (List (String × Value))} {vs : List Value}

/-- The number that a value is or that its text denotes, with the exponent of its last digit. -/
inductive Gives : Value → ℚ → Int → Prop where
  | int (n : Int) : Gives (.int n) n 0
  | text {s : String} {q : ℚ} {x : Int} (h : Denotes q x s.toList) : Gives (.text s) q x

/-- The text of a value denotes the number that it gives. -/
theorem Gives.denotes_display (h : Gives v q x) : Denotes q x v.display.toList := by
  cases h with
  | text h => exact h
  | int n =>
    have hdisplay : (Value.int n).display.toList = Numeral.ofInt n := String.toList_ofList
    rw [hdisplay]
    exact ⟨_, _, spelled_ofInt n, valueOf_natAbs n⟩

/-- The decimal that such a value stands for is that number, unrounded. -/
theorem Gives.standsFor {d : Decimal} (h : Gives v q x) (hd : StandsFor v d) :
    ∃ negative c, d = .finite negative c x ∧ valueOf negative c x = q := by
  obtain ⟨negative, c, hspelled, hq⟩ := h.denotes_display
  have hread := ofChars?_of_spelled hspelled
  cases hd with
  | decimal => cases h
  | text hnull hother hd =>
    rw [ofText?, hread] at hd
    split at hd
    · exact ⟨negative, c, (Option.some.inj hd).symm, hq⟩
    · cases hd

/-- The value is written as a string that denotes the number `q` with the exponent `x`, and no other. -/
structure WrittenAs (q : ℚ) (x : Int) (v : Value) : Prop where
  string : ∃ t, (∀ depth, valueChars depth v = '"' :: (t ++ ['"'])) ∧ (∀ c ∈ t, IsPart c) ∧ DenotesJust q x t

theorem writtenAs_decimal (negative : Bool) (c : Nat) (x : Int) :
    WrittenAs (valueOf negative c x) x (.decimal (.finite negative c x)) := by
  refine ⟨_, fun depth => ?_, isPart_chars negative c x, denotesJust_chars negative c x⟩
  rw [valueChars, stringChars, flatMap_escapeChar_of_isPart (isPart_chars negative c x)]

/-- The value is a text that denotes the number `q` with the exponent `x`, and no other. -/
def IsTextOf (q : ℚ) (x : Int) (v : Value) : Prop := ∃ s, v = .text s ∧ DenotesJust q x s.toList

theorem isTextOf_restated (negative : Bool) (c : Nat) (x : Int) :
    IsTextOf (valueOf negative c x) x (restated (.decimal (.finite negative c x))) := by
  refine ⟨_, rfl, ?_⟩
  rw [Decimal.text, String.toList_ofList]
  exact denotesJust_chars negative c x

/-! ### Fields -/

theorem convertField_eq_decimal_iff {d : Decimal} (hname : IsConvertedName columns name) :
    convertField (convertedNames columns) name v = .ok (.decimal d) ↔ StandsFor v d := by
  have hnumeric : convertField (convertedNames columns) name v = .ok (.decimal d) ↔ toNumeric v = .ok (.decimal d) := by
    rw [convertField, if_pos (by simpa using mem_convertedNames_iff.mpr hname)]
    cases toNumeric v <;> simp
  rw [hnumeric, toNumeric_eq_ok_iff]
  simp

/-- The field `g` has come of the field `f`, and each number that `f` gives exactly is kept as `Keeps` says. -/
def NumberTo (columns : List Column) (Keeps : ℚ → Int → Value → Prop) (f g : String × Value) : Prop :=
  g.1 = f.1 ∧ ∀ q x, IsConvertedName columns f.1 → Gives f.2 q x → Keeps q x g.2

theorem numberTo_of_fieldTo {Keeps : ℚ → Int → Value → Prop} {h : Value → Value}
    (hkeeps : ∀ negative c x, Keeps (valueOf negative c x) x (h (.decimal (.finite negative c x))))
    (hfield : FieldTo columns f g) : NumberTo columns Keeps f (g.1, h g.2) := by
  refine ⟨hfield.name, fun q x hname hgives => ?_⟩
  have hnull : f.2 ≠ .null := by
    intro hnull
    rw [hnull] at hgives
    cases hgives
  obtain ⟨d, hstands, hd⟩ := hfield.decimal hname hnull
  obtain ⟨negative, c, rfl, rfl⟩ := hgives.standsFor hstands
  rw [hd]
  exact hkeeps negative c x

/-! ### The whole -/

/-- How the exact numbers in the records `rows` of a table with the columns `columns` come out. -/
structure ExactlyWritten (columns : List Column) (rows : List (List (String × Value)))
    (result : Except ConversionError (List Value)) : Prop where
  accepts : ∀ name s negative c x, IsConvertedName columns name →
    (convertField (convertedNames columns) name (.text s) = .ok (.decimal (.finite negative c x)) ↔
      Spelled negative c x s.toList ∧ inBounds c x = true)
  acceptsInt : ∀ name n, IsConvertedName columns name → inBounds n.natAbs 0 = true →
    convertField (convertedNames columns) name (.int n) = .ok (.decimal (.finite (decide (n < 0)) n.natAbs 0))
  written : ∀ vs, result = .ok vs → ∃ converted, vs = converted.map .record ∧
    List.Forall₂ (List.Forall₂ (NumberTo columns WrittenAs)) rows converted
  readBack : (∀ fields ∈ rows, IsRead (.record fields)) → ∀ vs, result = .ok vs → ∃ again,
    parse (render (.list vs)) = .ok (.list (again.map .record)) ∧
      List.Forall₂ (List.Forall₂ (NumberTo columns IsTextOf)) rows again

/-- A number that is given exactly is written exactly, and a reader of what is written gets just that number. -/
theorem exactly_written (columns : List Column) (rows : List (List (String × Value))) :
    ExactlyWritten columns rows (convertRows (convertedNames columns) (rows.map .record)) := by
  constructor
  case accepts =>
    intro name s negative c x hname
    rw [convertField_eq_decimal_iff hname, standsFor_iff_ofText? (by rintro ⟨⟩) (by rintro _ ⟨⟩)]
    exact ofChars?_eq_finite_iff
  case acceptsInt =>
    intro name n hname hbounds
    have hdisplay : (Value.int n).display.toList = Numeral.ofInt n := String.toList_ofList
    rw [convertField_eq_decimal_iff hname, standsFor_iff_ofText? (by rintro ⟨⟩) (by rintro _ ⟨⟩), ofText?, hdisplay]
    exact ofChars?_eq_finite_iff.mpr ⟨spelled_ofInt n, hbounds⟩
  case written =>
    intro vs h
    obtain ⟨converted, hconverted, rfl⟩ := convertRows_records_eq_ok_iff.mp h
    exact ⟨converted, rfl, hconverted.imp fun _ _ hrow => hrow.imp fun _ _ =>
      numberTo_of_fieldTo (h := id) writtenAs_decimal⟩
  case readBack =>
    intro hread vs h
    have hrows : ∀ v ∈ rows.map Value.record, IsRead v := List.forall_mem_map.mpr hread
    have hparse := parse_render (isRead_restatedRows (isConvertedRow_of_convertRows hrows h))
    obtain ⟨converted, hconverted, rfl⟩ := convertRows_records_eq_ok_iff.mp h
    rw [render_restatedRows, List.map_map] at hparse
    refine ⟨converted.map (List.map restatedField), ?_, ?_⟩
    · rw [hparse, List.map_map]
      rfl
    · simp only [List.forall₂_map_right_iff]
      exact hconverted.imp fun _ _ hrow => hrow.imp fun _ _ => numberTo_of_fieldTo isTextOf_restated

/-- The zeros after the point stay, also where the exponent moves it. -/
example : (toNumeric (.text " -0_1.2300E+2 ")).map (valueChars 0) = .ok "\"-123.00\"".toList := by decide +kernel

end Conversion
end SpannerSchema

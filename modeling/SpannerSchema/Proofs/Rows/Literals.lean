import SpannerSchema.Proofs.Json.ShownValue
import SpannerSchema.Proofs.Rows.Exact

/-! Numbers that stand in a file of rows. An integer is written exactly in a column of decimal type. A number with a point or an
    exponent has become a binary number by then, and what is written are the shortest digits of that: fifteen digits outlast it,
    and more than seventeen never do. -/

namespace SpannerSchema
namespace Json
open Text Decimal

variable {cs rest literal : List Char} {negative floating : Bool} {c : Nat} {x : Int} {v : Value}

/-- A number as it stands in a text, for `± c · 10^x`. -/
inductive IsNumber (negative : Bool) (c : Nat) (x : Int) (floating : Bool) : List Char → Prop where
  | signed {cs : List Char} (h : IsLiteral c x floating cs) : IsNumber negative c x floating (signText negative ++ cs)

theorem IsNumber.denotes (h : IsNumber negative c x floating literal) : DenotesJust (valueOf negative c x) x literal := by
  obtain ⟨h⟩ := h
  exact fun _ _ => (spelled_of_isSign (isSign_signText negative) h.isNumeral).denotes_iff

/-- A number is read wherever a value is expected. -/
theorem IsNumber.value (h : IsNumber negative c x floating literal) (hrest : Closes rest) (fuel : Nat) :
    value (fuel + 1) (literal ++ rest) = .ok (literalValue negative c x floating, rest) := by
  obtain ⟨h⟩ := h
  rw [List.append_assoc]
  exact value_of_atom (atom_signText (unsigned?_of_isLiteral h hrest negative)) fuel

/-- A word or a number. -/
theorem word_or_isNumber (h : atom cs = .ok (v, rest)) : v ∈ words.map (·.2) ∨
    ∃ negative c x floating literal, cs = literal ++ rest ∧ IsNumber negative c x floating literal ∧
      v = literalValue negative c x floating := by
  unfold atom at h
  split at h
  · next hword =>
    cases h
    exact .inl (List.mem_map.mpr ⟨_, List.mem_of_find?_eq_some hword, rfl⟩)
  · split at h
    · next hnumber =>
      cases h
      unfold number? at hnumber
      split at hnumber
      · obtain ⟨c, x, floating, literal, rfl, hliteral, rfl⟩ := isLiteral_of_unsigned? hnumber
        exact .inr ⟨true, c, x, floating, _, rfl, .signed hliteral, rfl⟩
      · obtain ⟨c, x, floating, literal, rfl, hliteral, rfl⟩ := isLiteral_of_unsigned? hnumber
        exact .inr ⟨false, c, x, floating, _, rfl, .signed hliteral, rfl⟩
    · cases h

/-- The number is none of the words, and stands in the text. -/
def HoldsNumber (text : List Char) (v : Value) : Prop :=
  ∃ before literal after negative c x floating, text = before ++ (literal ++ after) ∧
    IsNumber negative c x floating literal ∧ v = literalValue negative c x floating

theorem holdsNumber_of_standsIn {text : List Char} (h : StandsIn text v) : v ∈ words.map (·.2) ∨ HoldsNumber text v := by
  obtain ⟨cs, rest, ⟨before, rfl⟩, hatom⟩ := h
  refine (word_or_isNumber hatom).imp_right ?_
  rintro ⟨negative, c, x, floating, literal, rfl, hliteral, rfl⟩
  exact ⟨before, literal, rest, negative, c, x, floating, rfl, hliteral, rfl⟩

/-- No word and no number has parts. -/
theorem not_compound_of_standsIn {text : List Char} (h : StandsIn text v) :
    (∀ vs, v ≠ .list vs) ∧ ∀ fields, v ≠ .record fields := by
  rcases holdsNumber_of_standsIn h with hword | ⟨_, _, _, negative, c, x, floating, -, -, rfl⟩
  · have hwords : ∀ w ∈ words.map (·.2), (∀ vs, w ≠ .list vs) ∧ ∀ fields, w ≠ .record fields := by simp [words]
    exact hwords v hword
  · cases floating <;> exact ⟨by rintro _ ⟨⟩, by rintro _ ⟨⟩⟩

/-- What stands in the records that are read is composed as they are. -/
theorem composed_of_mem_records {text : List Char} {rows : List Value} {fields : List (String × Value)}
    (h : Composed (StandsIn text) (.list rows)) (hfields : .record fields ∈ rows) :
    ∀ f ∈ fields, Composed (StandsIn text) f.2 := by
  cases h with
  | atom h => exact absurd rfl ((not_compound_of_standsIn h).1 rows)
  | list h =>
    cases h _ hfields with
    | atom h => exact absurd rfl ((not_compound_of_standsIn h).2 fields)
    | record _ h => exact h

/-- An integer or a binary number comes from a word or a number. -/
theorem holdsNumber_of_composed {text : List Char} (h : Composed (StandsIn text) v)
    (hv : (∃ n, v = .int n) ∨ ∃ b, v = .float b) : v ∈ words.map (·.2) ∨ HoldsNumber text v := by
  cases h with
  | atom h => exact holdsNumber_of_standsIn h
  | text | list | record => rcases hv with ⟨_, ⟨⟩⟩ | ⟨_, ⟨⟩⟩

end Json

namespace Conversion
open Json Decimal

variable {columns : List Column} {name : String} {v : Value} {negative floating : Bool} {c : Nat} {x : Int} {q : ℚ}
  {f g : String × Value} {vs : List Value} {d : Decimal} {s : String}

/-! ### What is written of a decimal -/

/-- What stands between the quotes. -/
theorem WrittenAs.exists_chars {y : Int} (h : WrittenAs q y (.decimal d)) :
    (∀ l ∈ d.chars.flatMap escapeChar, IsPart l) ∧ DenotesJust q y (d.chars.flatMap escapeChar) := by
  obtain ⟨t, htext, hpart, hdenotes⟩ := h.string
  have hquoted := htext 0
  rw [valueChars, stringChars, List.cons.injEq, List.append_cancel_right_eq] at hquoted
  exact hquoted.2 ▸ ⟨hpart, hdenotes⟩

theorem writtenAs_finite_iff : (∃ y, WrittenAs q y (.decimal (.finite negative c x))) ↔ q = valueOf negative c x := by
  constructor
  · rintro ⟨y, h⟩
    have hdenotes := h.exists_chars.2
    rw [flatMap_escapeChar_of_isPart (isPart_chars negative c x)] at hdenotes
    exact ((denotesJust_chars negative c x q y).mp ((hdenotes q y).mpr ⟨rfl, rfl⟩)).1
  · rintro rfl
    exact ⟨x, writtenAs_decimal negative c x⟩

/-- What is written of a decimal that is no number denotes none. -/
theorem not_writtenAs (hd : ∀ negative c x, d ≠ .finite negative c x) (q : ℚ) (y : Int) : ¬WrittenAs q y (.decimal d) := by
  intro h
  have hletter : ∃ l ∈ d.chars, l ∈ ['I', 'N'] := by
    cases d with
    | finite negative c x => exact absurd rfl (hd negative c x)
    | infinite negative => exact ⟨'I', by simp [Decimal.chars], by decide⟩
    | nan negative signaling payload => exact ⟨'N', by cases signaling <;> simp [Decimal.chars], by decide⟩
  obtain ⟨l, hl, hmem⟩ := hletter
  have hword : l ∈ escapeChar l ∧ ¬IsPart l := by
    unfold IsPart
    simp only [List.mem_cons, List.not_mem_nil, or_false] at hmem
    rcases hmem with rfl | rfl <;> decide
  exact hword.2 (h.exists_chars.1 l (List.mem_flatMap.mpr ⟨l, hl, hword.1⟩))

/-! ### What becomes of a binary number -/

/-- A binary number is always converted, and written as the number that its text denotes. -/
theorem exists_standsFor_float {b : Binary64} (hb : b.IsCanonical) :
    ∃ d, StandsFor (.float b) d ∧ ∀ q, (∃ y, WrittenAs q y (.decimal d)) ↔ b.shown? = some q := by
  have hstands {d : Decimal} (h : ofChars? b.chars = some d) : StandsFor (.float b) d := by
    have hdisplay : (Value.float b).display.toList = b.chars := String.toList_ofList
    exact .text (by rintro ⟨⟩) (by rintro _ ⟨⟩) (by rw [ofText?, hdisplay, h])
  have hnone {d : Decimal} (hd : ∀ negative c x, d ≠ .finite negative c x) (hshown : b.shown? = none) (q : ℚ) :
      (∃ y, WrittenAs q y (.decimal d)) ↔ b.shown? = some q := by
    rw [hshown]
    exact iff_of_false (not_exists.mpr (not_writtenAs hd q)) (by rintro ⟨⟩)
  cases b with
  | finite negative m e =>
    obtain ⟨c, x, hspelled, hbounds, hshown⟩ := Binary64.exists_spelled_chars hb
    refine ⟨_, hstands (ofChars?_eq_finite_iff.mpr ⟨hspelled, hbounds⟩), fun q => ?_⟩
    rw [writtenAs_finite_iff, hshown, Option.some.injEq, eq_comm]
  | infinite negative =>
    have hword : ofChars? (Binary64.infinite negative).chars = some (.infinite negative) := by
      cases negative <;> decide
    exact ⟨_, hstands hword, hnone (by rintro _ _ _ ⟨⟩) rfl⟩
  | nan =>
    have hword : ofChars? Binary64.nan.chars = some (.nan false false 0) := by decide
    exact ⟨_, hstands hword, hnone (by rintro _ _ _ ⟨⟩) rfl⟩

theorem StandsFor.unique {d' : Decimal} (h : StandsFor v d) (h' : StandsFor v d') : d = d' := by
  cases h with
  | decimal => exact (standsFor_decimal_iff.mp h').symm
  | text hnull hother hread =>
    rw [(standsFor_iff_ofText? hnull hother).mp h'] at hread
    exact (Option.some.inj hread).symm

/-- The value `v` is what the number `± c · 10^x`, as it was read from a file, has been converted to. -/
structure NumberWritten (negative : Bool) (c : Nat) (x : Int) (floating : Bool) (v : Value) : Prop where
  integer : floating = false → WrittenAs (valueOf negative c 0) 0 v
  shown : floating = true → ∀ q, (∃ y, WrittenAs q y v) ↔ (Binary64.ofScientific negative c x).shown? = some q
  few : floating = true → Binary64.HasDigits 15 c → (c = 0 ∨ -307 ≤ adjusted c x ∧ adjusted c x ≤ 307) →
    ∃ y, WrittenAs (valueOf negative c x) y v
  many : floating = true → ¬Binary64.HasDigits 17 c → ∀ y, ¬WrittenAs (valueOf negative c x) y v
  near : floating = true → ∀ sign m e, 0 < m → Binary64.ofScientific negative c x = .finite sign m e →
    ∃ q y, WrittenAs q y v ∧ |q - valueOf negative c x| ≤ 2 ^ e

theorem numberWritten_of_shown (h : ∀ q, (∃ y, WrittenAs q y v) ↔ (Binary64.ofScientific negative c x).shown? = some q) :
    NumberWritten negative c x true v := by
  constructor
  case integer => rintro ⟨⟩
  case shown => exact fun _ => h
  case few => exact fun _ hdigits hsize => (h _).mpr (Binary64.shown?_of_hasDigits hdigits hsize negative)
  case many => exact fun _ hdigits y hy => hdigits (Binary64.hasDigits_of_shown? ((h _).mp ⟨y, hy⟩))
  case near =>
    intro _ sign m e hm hread
    obtain ⟨q, hq, hdistance⟩ := Binary64.abs_shown_sub_le hm hread
    obtain ⟨y, hy⟩ := (h q).mpr hq
    exact ⟨q, y, hy, hdistance⟩

theorem numberWritten_of_fieldTo (hfield : FieldTo columns f g) (hname : IsConvertedName columns f.1)
    (hf : f.2 = literalValue negative c x floating) : NumberWritten negative c x floating g.2 := by
  cases floating with
  | false =>
    have hgives : Gives f.2 (valueOf negative c 0) 0 := by
      rw [hf, valueOf, zpow_zero, mul_one]
      exact .int _
    have hwritten := (numberTo_of_fieldTo (h := id) writtenAs_decimal hfield).2 _ _ hname hgives
    exact ⟨fun _ => hwritten, by rintro ⟨⟩, by rintro ⟨⟩, by rintro ⟨⟩, by rintro ⟨⟩⟩
  | true =>
    obtain ⟨d, hd, hshown⟩ := exists_standsFor_float (Binary64.isCanonical_ofScientific negative c x)
    obtain ⟨d', hd', hg⟩ := hfield.decimal hname (by rw [hf]; rintro ⟨⟩)
    rw [hf] at hd'
    obtain rfl := hd.unique hd'
    rw [hg]
    exact numberWritten_of_shown hshown

/-! ### The whole -/

/-- Rows of a file that have been converted are records. -/
theorem exists_records_of_convertRows {names : List String} {given : List Value} (hgiven : ∀ v ∈ given, IsRead v)
    (h : convertRows names given = .ok vs) : ∃ rows : List (List (String × Value)), given = rows.map .record := by
  rw [convertRows_eq_ok_iff] at h
  induction h with
  | nil => exact ⟨[], rfl⟩
  | cons hrow _ ih =>
    obtain ⟨hfirst, hrest⟩ := List.forall_mem_cons.mp hgiven
    obtain ⟨rows, rfl⟩ := ih hrest
    cases hfirst with
    | record => exact ⟨_ :: rows, rfl⟩
    | _ => cases hrow

/-- How the numbers in a file of rows come out: `given` is read from its text, and `result` is what becomes of it for a table with
the columns `columns`. -/
structure NumbersWritten (columns : List Column) (text : List Char) (given : List Value)
    (result : Except ConversionError (List Value)) : Prop where
  holds : ∀ fields, .record fields ∈ given → ∀ f ∈ fields, ((∃ n, f.2 = .int n) ∨ ∃ b, f.2 = .float b) →
    f.2 ∈ words.map (·.2) ∨ HoldsNumber text f.2
  denotes : ∀ negative c x floating literal, IsNumber negative c x floating literal → DenotesJust (valueOf negative c x) x literal
  reads : ∀ negative c x floating literal, IsNumber negative c x floating literal → ∀ rest, Closes rest → ∀ fuel,
    value (fuel + 1) (literal ++ rest) = .ok (literalValue negative c x floating, rest)
  accepts : ∀ name negative c x, ∃ v, convertField (convertedNames columns) name (literalValue negative c x true) = .ok v
  written : ∀ vs, result = .ok vs → ∃ rows converted, given = rows.map .record ∧ vs = converted.map .record ∧
    List.Forall₂ (List.Forall₂ fun f g => g.1 = f.1 ∧ ∀ negative c x floating, IsConvertedName columns f.1 →
      f.2 = literalValue negative c x floating → NumberWritten negative c x floating g.2) rows converted

/-- Each number in a file is read as the number that its literal denotes, an integer exactly and any other as the binary number
nearest to it, which no table refuses; and what is written of that is what its text denotes. -/
theorem numbers_written (columns : List Column) {s : String} {given : List Value} (hread : parse s = .ok (.list given)) :
    NumbersWritten columns s.toList given (convertRows (convertedNames columns) given) := by
  constructor
  case holds =>
    intro fields hfields f hf
    exact holdsNumber_of_composed (composed_of_mem_records (composed_of_parse hread) hfields f hf)
  case denotes => exact fun _ _ _ _ _ h => h.denotes
  case reads => exact fun _ _ _ _ _ h _ hrest fuel => h.value hrest fuel
  case accepts =>
    intro name negative c x
    by_cases hname : IsConvertedName columns name
    · obtain ⟨d, hd, -⟩ := exists_standsFor_float (Binary64.isCanonical_ofScientific negative c x)
      exact ⟨_, (convertField_eq_decimal_iff hname).mpr hd⟩
    · exact ⟨_, if_neg (by simpa using mt mem_convertedNames_iff.mp hname)⟩
  case written =>
    intro vs h
    have hgiven : ∀ v ∈ given, IsRead v := by
      cases isRead_of_parse hread with
      | list hgiven => exact hgiven
    obtain ⟨rows, rfl⟩ := exists_records_of_convertRows hgiven h
    obtain ⟨converted, hconverted, rfl⟩ := convertRows_records_eq_ok_iff.mp h
    exact ⟨rows, converted, rfl, rfl, hconverted.imp fun _ _ hrow => hrow.imp fun _ _ hfield =>
      ⟨hfield.name, fun _ _ _ _ hname hf => numberWritten_of_fieldTo hfield hname hf⟩⟩

/-- A file with one row that has one price. -/
def priceText (literal : String) : String := "[\x7b\"price\": " ++ literal ++ "\x7d]"

def priceColumns : List Column := [{ name := "price", type := "decimal(19,2)" }]

def priceRows (v : Value) : List Value := [.record [("price", v)]]

def price? : Value → Option Binary64
  | .list [.record [("price", .float b)]] => some b
  | _ => none

theorem parse_of_price? {b : Binary64} (h : (parse s).map price? = .ok (some b)) :
    parse s = .ok (.list (priceRows (.float b))) := by
  cases hparse : parse s with
  | error reason =>
    rw [hparse] at h
    cases h
  | ok v =>
    rw [hparse] at h
    have hprice : price? v = some b := Except.ok.inj h
    unfold price? at hprice
    split at hprice
    · cases hprice
      rfl
    · cases hprice

theorem convertRows_priceRows {b : Binary64} (h : ofText? (Value.display (.float b)) = some d) :
    convertRows (convertedNames priceColumns) (priceRows (.float b)) = .ok (priceRows (.decimal d)) := by
  have hnames : convertedNames priceColumns = ["price"] := by decide +kernel
  simp [convertRows, convertRow, convertFields, convertField, toNumeric, hnames, priceRows, h, Except.map]

theorem numbers_written_tenth : ∃ v, parse (priceText "0.10") = .ok (.list (priceRows (literalValue false 10 (-2) true))) ∧
    convertRows (convertedNames priceColumns) (priceRows (literalValue false 10 (-2) true)) = .ok (priceRows v) ∧
    ∃ y, WrittenAs (1 / 10) y v := by
  have hparse : parse (priceText "0.10") = .ok (.list (priceRows (literalValue false 10 (-2) true))) :=
    parse_of_price? (by decide +kernel)
  have hname : IsConvertedName priceColumns "price" := mem_convertedNames_iff.mp (by decide +kernel)
  have hread : ofText? (Value.display (literalValue false 10 (-2) true)) = some (.finite false 1 (-1)) := by decide +kernel
  have hconverted := convertRows_priceRows hread
  obtain ⟨rows, converted, hrows, hvs, hfields⟩ := (numbers_written priceColumns hparse).written _ hconverted
  obtain ⟨fields, rfl, hfield⟩ := List.map_eq_singleton_iff.mp hrows.symm
  obtain ⟨fields', rfl, hfield'⟩ := List.map_eq_singleton_iff.mp hvs.symm
  cases hfield
  cases hfield'
  cases hfields with
  | cons hrow =>
    cases hrow with
    | cons hprice =>
      have hwritten := hprice.2 false 10 (-2) true hname rfl
      have hfew := hwritten.few rfl (Binary64.hasDigits_of_le (by decide) (by decide)) (.inr (by decide +kernel))
      have hvalue : valueOf false 10 (-2) = 1 / 10 := by norm_num [valueOf, signed]
      exact ⟨_, hparse, hconverted, hvalue ▸ hfew⟩

/-- A price of nineteen digits is written with the seventeen that its binary number has. -/
theorem price_not_kept :
    ∃ v, parse (priceText "12345678901234567.89") = .ok (.list (priceRows v)) ∧
      IsConvertedName priceColumns "price" ∧
      convertRows (convertedNames priceColumns) (priceRows v) =
        .ok (priceRows (.decimal (.finite false 12345678901234568 0))) ∧
      render (.list (priceRows (.decimal (.finite false 12345678901234568 0)))) =
        "[\n  \x7b\n    \"price\": \"12345678901234568\"\n  \x7d\n]\n" ∧
      DenotesJust (1234567890123456789 / 100) (-2) "12345678901234567.89".toList ∧
      ∀ y, ¬Denotes (1234567890123456789 / 100) y "12345678901234568".toList := by
  have hliteral : ofChars? "12345678901234567.89".toList = some (.finite false 1234567890123456789 (-2)) := by decide +kernel
  have hwritten : ofChars? "12345678901234568".toList = some (.finite false 12345678901234568 0) := by decide +kernel
  have hvalue : valueOf false 1234567890123456789 (-2) = 1234567890123456789 / 100 := by norm_num [valueOf, signed]
  refine ⟨.float (Binary64.ofScientific false 1234567890123456789 (-2)), parse_of_price? (by decide +kernel),
    mem_convertedNames_iff.mp (by decide +kernel), convertRows_priceRows (by decide +kernel), by decide +kernel, ?_, ?_⟩
  · rw [← hvalue]
    exact fun _ _ => (ofChars?_eq_finite_iff.mp hliteral).1.denotes_iff
  · intro y hy
    obtain ⟨hsame, -⟩ := (ofChars?_eq_finite_iff.mp hwritten).1.denotes_iff.mp hy
    norm_num [valueOf, signed] at hsame

end Conversion
end SpannerSchema

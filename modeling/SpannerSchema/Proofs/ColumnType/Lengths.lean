import SpannerSchema.Proofs.ColumnType.Lists
import SpannerSchema.Proofs.Text.Digits

/-! Declared lengths. A length is a numeral, perhaps with zeros before it. The text types keep it as it is written; the
    binary types read its number and write that without the zeros. Either way the length of the target is the declared
    one, also where it is zero or greater than the length that a type without one has. -/

namespace SpannerSchema
open Text

variable {cs : List Char} {n : Nat}

/-- An ASCII numeral of `n`, with any number of zeros before it. -/
structure NumeralOf (n : Nat) (cs : List Char) : Prop where
  digits : Digits cs
  nonempty : cs ≠ []
  number : numberOf cs = n

theorem numeralOf_digitChars (n : Nat) : NumeralOf n (digitChars n) :=
  ⟨digits_digitChars n, digitChars_ne_nil n, numberOf_digitChars n⟩

namespace Numeral

/-! ### Reading a length -/

theorem grouped?_of_digits (hdigits : Digits cs) (hne : cs ≠ []) : grouped? cs = some (cs.map fun c => c.toNat - 48) := by
  induction cs using grouped?.induct with
  | case1 => exact absurd rfl hne
  | case2 c =>
    have hc := digit?_of_isDigit (hdigits c (by simp))
    rw [grouped?, hc]
    rfl
  | case3 c rest ih =>
    have hline : ('_' : Char).isDigit = true := hdigits '_' (by simp)
    cases hline
  | case4 c rest hrest hline ih =>
    have hc := digit?_of_isDigit (hdigits c (by simp))
    have htail := ih (fun d hd => hdigits d (List.mem_cons_of_mem c hd)) hrest
    rw [grouped?, hc, htail]
    · rfl
    · exact hrest
    · exact hline

theorem toInt?_of_numeralOf (h : NumeralOf n cs) : toInt? cs = some (n : Int) := by
  obtain ⟨hdigits, hne, hnumber⟩ := h
  have hmargin : ∀ c ∈ cs, isMargin c = false := by
    intro c hc
    obtain ⟨hlow, hhigh⟩ := toNat_of_isDigit (hdigits c hc)
    simp [isMargin, isBlank, blankBounds, inRanges]
    omega
  have hread := grouped?_of_digits hdigits hne
  rw [toInt?, strip_eq_self hmargin]
  -- A sign would have to be one of the digits.
  split
  · next rest =>
    have hsign : ('-' : Char).isDigit = true := hdigits '-' (by simp)
    cases hsign
  · next rest =>
    have hsign : ('+' : Char).isDigit = true := hdigits '+' (by simp)
    cases hsign
  · rw [hread, Option.map_some, ofDigits_map, hnumber]

end Numeral

namespace ParameterList

theorem wellFormed_of_digits (h : Digits cs) : WellFormed cs := by
  induction cs with
  | nil => exact .nil
  | cons c cs ih =>
    refine .plain ?_ (ih fun d hd => h d (List.mem_cons_of_mem c hd))
    intro hmem
    have hc : c.isDigit = true := h c (by simp)
    simp only [List.mem_cons, List.not_mem_nil, or_false] at hmem
    rcases hmem with rfl | rfl | rfl | rfl <;> cases hc

end ParameterList

namespace TypeKind

variable {s : String} {usual : Int}

/-- A numeral is not taken for a missing length. -/
theorem isEmpty_of_numeralOf (h : NumeralOf n s.toList) : s.isEmpty = false := by
  rw [← Bool.not_eq_true, String.isEmpty_iff]
  rintro rfl
  exact h.nonempty rfl

theorem stringOf_of_numeralOf (h : NumeralOf n s.toList) : stringOf (some s) = "STRING(" ++ s ++ ")" := by
  rw [stringOf, isEmpty_of_numeralOf h]
  rfl

theorem bytesOf_of_numeralOf (h : NumeralOf n s.toList) :
    bytesOf (some s) usual = .ok ("BYTES(" ++ String.ofList (digitChars n) ++ ")") := by
  rw [bytesOf, isEmpty_of_numeralOf h, Numeral.toInt?_of_numeralOf h]
  rfl

end TypeKind

namespace SourceType

/-! ### Types with a length -/

/-- The types that take a length in characters. -/
def textWords : List String := ["char", "varchar", "tinytext"]

/-- The types that take a length in bytes. -/
def binaryWords : List String := ["blob", "tinyblob", "mediumblob", "longblob", "varbinary", "binary"]

variable {word length : String}

theorem toTarget_of_numeralOf {kind : TypeKind} (hword : word ∈ textWords ++ binaryWords)
    (hkind : TypeKind.resolve? (keyword word) = some kind) (h : NumeralOf n length.toList) (initial : Option String) :
    toTarget (listed word length "") initial = kind.render (some length) initial := by
  have hwords : ∀ w ∈ textWords ++ binaryWords, '(' ∉ w.toList ∧ w.toList.getLast?.any isBlank = false := by decide +kernel
  obtain ⟨hopen, hblank⟩ := hwords word hword
  have hlast : ∀ c ∈ word.toList.getLast?, isBlank c = false := (Option.any_eq_false _ _).mp hblank
  exact toTarget_listed (ParameterList.wellFormed_of_digits h.digits) initial hopen hlast hkind

theorem toTarget_text (hword : word ∈ textWords) (h : NumeralOf n length.toList) (initial : Option String) :
    toTarget (listed word length "") initial = .ok ⟨"STRING(" ++ length ++ ")", none⟩ := by
  have hkinds : ∀ w ∈ textWords, TypeKind.resolve? (keyword w) = some .string := by decide +kernel
  rw [toTarget_of_numeralOf (List.mem_append_left _ hword) (hkinds word hword) h, TypeKind.render,
    TypeKind.stringOf_of_numeralOf h]

theorem toTarget_binary (hword : word ∈ binaryWords) (h : NumeralOf n length.toList) (initial : Option String) :
    toTarget (listed word length "") initial = .ok ⟨"BYTES(" ++ String.ofList (digitChars n) ++ ")", none⟩ := by
  have hkinds : ∀ w ∈ binaryWords, TypeKind.resolve? (keyword w) ∈ [some .blob, some .tinyblob, some .bytes] := by
    decide +kernel
  have hkind := hkinds word hword
  simp only [List.mem_cons, List.not_mem_nil, or_false] at hkind
  rcases hkind with hkind | hkind | hkind
  all_goals
    rw [toTarget_of_numeralOf (List.mem_append_right _ hword) hkind h, TypeKind.render, TypeKind.bytesOf_of_numeralOf h]
    rfl

/-- A type with a declared length has a target with that length, whatever the initial value of its column is. -/
theorem length_kept (n : Nat) (length : String) (h : NumeralOf n length.toList) (initial : Option String) :
    (∀ word ∈ textWords, ∃ m : String, NumeralOf n m.toList ∧
      toTarget (word ++ "(" ++ length ++ ")") initial = .ok ⟨"STRING(" ++ m ++ ")", none⟩) ∧
    ∀ word ∈ binaryWords, ∃ m : String, NumeralOf n m.toList ∧
      toTarget (word ++ "(" ++ length ++ ")") initial = .ok ⟨"BYTES(" ++ m ++ ")", none⟩ := by
  have hlisted (word : String) : word ++ "(" ++ length ++ ")" = listed word length "" := by
    rw [listed, String.append_empty]
  refine ⟨fun word hword => ⟨length, h, ?_⟩, fun word hword => ⟨String.ofList (digitChars n), ?_, ?_⟩⟩
  · rw [hlisted, toTarget_text hword h]
  · rw [String.toList_ofList]
    exact numeralOf_digitChars n
  · rw [hlisted, toTarget_binary hword h]

/-- A length of zero, and one above the usual lengths with zeros before it. -/
theorem length_kept_scans :
    NumeralOf 0 "00".toList ∧ NumeralOf 20000000 "0020000000".toList ∧
    (∃ m : String, NumeralOf 0 m.toList ∧ toTarget "blob(00)" none = .ok ⟨"BYTES(" ++ m ++ ")", none⟩) ∧
    (∃ m : String, NumeralOf 20000000 m.toList ∧
      toTarget "binary(0020000000)" (some "0") = .ok ⟨"BYTES(" ++ m ++ ")", none⟩) ∧
    ∃ m : String, NumeralOf 20000000 m.toList ∧
      toTarget "varchar(0020000000)" none = .ok ⟨"STRING(" ++ m ++ ")", none⟩ := by
  have hzero : NumeralOf 0 "00".toList := ⟨List.all_eq_true.mp (by decide), by decide, by decide⟩
  have hlarge : NumeralOf 20000000 "0020000000".toList := ⟨List.all_eq_true.mp (by decide), by decide, by decide⟩
  obtain ⟨-, hbinary⟩ := length_kept 0 "00" hzero none
  obtain ⟨-, hbinary'⟩ := length_kept 20000000 "0020000000" hlarge (some "0")
  obtain ⟨htext, -⟩ := length_kept 20000000 "0020000000" hlarge none
  exact ⟨hzero, hlarge, hbinary "blob" (by decide), hbinary' "binary" (by decide), htext "varchar" (by decide)⟩

end SourceType
end SpannerSchema

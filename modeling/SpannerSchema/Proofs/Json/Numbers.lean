import SpannerSchema.Json.Writer
import SpannerSchema.Proofs.Json.Literals

/-! Numbers and words of JSON, read back from what is written for them. A number ends before a comma or a line break, which is
    what follows each value that is written. -/

namespace SpannerSchema
namespace Json
open Text

variable {cs rest : List Char} {negative : Bool}

/-- What can follow a value in a text that is written. -/
def Ends (rest : List Char) : Prop := ∃ tail, rest = ',' :: tail ∨ rest = '\n' :: tail

theorem Ends.closes (h : Ends rest) : Closes rest := by
  obtain ⟨tail, rfl | rfl⟩ := h
  · rintro c ⟨rfl⟩
    decide
  · rintro c ⟨rfl⟩
    decide

/-! ### Numbers -/

theorem unsigned?_chars {m : Nat} {e : Int} (h : (Binary64.finite negative m e).IsCanonical) (hrest : Ends rest) :
    ∃ cs, (Binary64.finite negative m e).chars = Decimal.signText negative ++ cs ∧
      unsigned? negative (cs ++ rest) = some (.float (.finite negative m e), rest) := by
  rcases Nat.eq_zero_or_pos m with rfl | hm
  · obtain rfl : e = -1074 := by
      obtain ⟨-, -, -, hnormal⟩ := h
      exact hnormal.resolve_right (by decide)
    have hliteral := isLiteral_plain isWhole_zero (digits_replicate_zero 1) (List.cons_ne_nil _ _) rfl rfl
    exact ⟨['0', '.', '0'], rfl, unsigned?_of_isLiteral hliteral hrest.closes negative⟩
  · obtain ⟨cs, c, x, hchars, hliteral, hshifted, -⟩ := exists_isLiteral_chars hm h
    refine ⟨cs, hchars, ?_⟩
    rw [unsigned?_of_isLiteral hliteral hrest.closes, literalValue, if_pos rfl, Binary64.ofScientific_congr hshifted,
      Binary64.ofScientific_shortest hm h]

/-- A text that is read as a number without a sign starts with a digit. -/
theorem head_of_unsigned? {r : Value × List Char} (h : unsigned? negative cs = some r) :
    ∃ c tail, cs = c :: tail ∧ c.isDigit = true := by
  have hwhole : wholePart cs ≠ [] := by
    intro hnil
    simp [unsigned?, hnil] at h
  cases cs with
  | nil => exact absurd rfl hwhole
  | cons c tail =>
    refine ⟨c, tail, rfl, ?_⟩
    by_cases hzero : c = '0'
    · rw [hzero]
      rfl
    · by_contra hdigit
      exact hwhole (by simp [wholePart, hzero, hdigit])

/-- A number with its sign is read as it is without, and is no word. -/
theorem atom_signText {r : Value × List Char} (h : unsigned? negative cs = some r) :
    atom (Decimal.signText negative ++ cs) = .ok r := by
  obtain ⟨c, tail, rfl, hc⟩ := head_of_unsigned? h
  have hne {d : Char} (hd : d.isDigit = false) : c ≠ d := ne_of_isDigit hc hd
  cases negative with
  | true =>
    have hword : words.find? (fun w => w.1.isPrefixOf ('-' :: c :: tail)) = none := by
      simp [words, (hne (d := 'I') rfl).symm]
    have hnumber : number? ('-' :: c :: tail) = some r := h
    change atom ('-' :: c :: tail) = _
    rw [atom, hword]
    simp only [hnumber]
  | false =>
    have hword : words.find? (fun w => w.1.isPrefixOf (c :: tail)) = none := by
      simp [words, (hne (d := 'n') rfl).symm, (hne (d := 't') rfl).symm, (hne (d := 'f') rfl).symm,
        (hne (d := 'N') rfl).symm, (hne (d := 'I') rfl).symm, (hne (d := '-') rfl).symm]
    have hnumber : number? (c :: tail) = some r := by
      unfold number?
      split
      · next heq =>
        cases heq
        exact absurd rfl (hne (d := '-') rfl)
      · exact h
    change atom (c :: tail) = _
    rw [atom, hword]
    simp only [hnumber]

theorem atom_ofInt (n : Int) (hrest : Ends rest) : atom (Numeral.ofInt n ++ rest) = .ok (.int n, rest) := by
  have hread (negative : Bool) (k : Nat) : unsigned? negative (digitChars k ++ rest) =
      some (.int (if negative then -(k : Int) else k), rest) := by
    have hliteral := IsLiteral.integer (isWhole_digitChars k) (numberOf_digitChars k) rfl
    exact unsigned?_of_isLiteral hliteral hrest.closes negative
  cases n with
  | ofNat k => exact atom_signText (hread false k)
  | negSucc k => exact atom_signText (hread true (k + 1))

/-! ### Words -/

theorem atom_null (rest : List Char) : atom ("null".toList ++ rest) = .ok (.null, rest) := rfl

theorem atom_true (rest : List Char) : atom ("true".toList ++ rest) = .ok (.bool true, rest) := rfl

theorem atom_false (rest : List Char) : atom ("false".toList ++ rest) = .ok (.bool false, rest) := rfl

theorem atom_floatChars {x : Binary64} (h : x.IsCanonical) (hrest : Ends rest) :
    atom (floatChars x ++ rest) = .ok (.float x, rest) := by
  cases x with
  | infinite negative => cases negative <;> rfl
  | nan => rfl
  | finite negative m e =>
    obtain ⟨cs, hchars, hread⟩ := unsigned?_chars h hrest
    have hfinite : floatChars (.finite negative m e) = Decimal.signText negative ++ cs := hchars
    rw [hfinite, List.append_assoc, atom_signText hread]

end Json
end SpannerSchema

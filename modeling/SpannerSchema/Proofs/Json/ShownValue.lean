import SpannerSchema.Proofs.Json.Literals
import SpannerSchema.Proofs.Number.Shortest

/-! The number that the text of a binary number denotes, and when it is that of the literal which was read: always if the literal
    has few digits, never if it has many. -/

namespace SpannerSchema
open Decimal Json

namespace Decimal

variable {c c' : Nat} {x x' : Int}

theorem valueOf_eq_iff (negative : Bool) :
    valueOf negative c x = valueOf negative c' x' ↔ (c : ℚ) * 10 ^ x = c' * 10 ^ x' := by
  cases negative <;> simp [valueOf, signed]

/-- Numbers of one sign are as far apart as without it. -/
theorem abs_valueOf_sub (negative : Bool) (c c' : Nat) (x x' : Int) :
    |valueOf negative c x - valueOf negative c' x'| = |(c : ℚ) * 10 ^ x - c' * 10 ^ x'| := by
  cases negative with
  | false => simp [valueOf, signed]
  | true =>
    rw [abs_sub_comm]
    simp [valueOf, signed, neg_mul, sub_neg_eq_add, neg_add_eq_sub]

theorem valueOf_of_shifted (h : Binary64.Shifted c x c' x') (negative : Bool) :
    valueOf negative c x = valueOf negative c' x' := by
  obtain ⟨n, k, k', rfl, rfl, hx⟩ := h
  rw [valueOf_eq_iff, Binary64.mul_pow_mul_zpow, Binary64.mul_pow_mul_zpow, hx]

theorem valueOf_eq_zero_iff (negative : Bool) : valueOf negative c x = 0 ↔ c = 0 := by
  have hten : (10 : ℚ) ^ x ≠ 0 := by positivity
  cases negative <;> simp [valueOf, signed, hten]

end Decimal

namespace Binary64

variable {c m : Nat} {x e : Int} {negative : Bool}

/-- The number that the text of a binary number denotes, if there is one: its shortest digits make it. -/
def shown? : Binary64 → Option ℚ
  | finite negative m e => some (if m = 0 then 0 else Decimal.valueOf negative (shortest m e).1 (shortest m e).2)
  | _ => none

theorem shown?_finite (hm : 0 < m) :
    shown? (finite negative m e) = some (Decimal.valueOf negative (shortest m e).1 (shortest m e).2) := by
  rw [shown?, if_neg hm.ne']

/-- The text of a number spells the number that it shows, within the bounds. -/
theorem exists_spelled_chars (h : IsCanonical (finite negative m e)) : ∃ c x, Spelled negative c x (finite negative m e).chars ∧
    inBounds c x = true ∧ shown? (finite negative m e) = some (Decimal.valueOf negative c x) := by
  rcases Nat.eq_zero_or_pos m with rfl | hm
  · have hliteral := isLiteral_plain isWhole_zero (Text.digits_replicate_zero 1) (List.cons_ne_nil _ _) rfl rfl
    refine ⟨_, _, spelled_of_isSign (isSign_signText negative) hliteral.isNumeral, by decide, ?_⟩
    exact congrArg some ((Decimal.valueOf_eq_zero_iff negative).mpr rfl).symm
  · obtain ⟨cs, c, x, hchars, hliteral, hshifted, hx⟩ := exists_isLiteral_chars hm h
    refine ⟨c, x, ?_, ?_, ?_⟩
    · rw [hchars]
      exact spelled_of_isSign (isSign_signText negative) hliteral.isNumeral
    · have hread := ofScientific_shortest hm h
      rw [← ofScientific_congr hshifted] at hread
      obtain ⟨-, -, hhigh⟩ := adjusted_mem_of_ofScientific hm hread
      have hlow := le_shortest hm h
      rw [inBounds, Bool.and_eq_true, decide_eq_true_eq, decide_eq_true_eq, maxAdjusted, minExponent]
      omega
    · rw [shown?_finite hm, valueOf_of_shifted hshifted]

/-- A decimal of few digits is shown as it is. -/
theorem shown?_of_hasDigits (hdigits : HasDigits 15 c)
    (hsize : c = 0 ∨ -307 ≤ Decimal.adjusted c x ∧ Decimal.adjusted c x ≤ 307) (negative : Bool) :
    shown? (ofScientific negative c x) = some (Decimal.valueOf negative c x) := by
  rcases Nat.eq_zero_or_pos c with rfl | hc
  · rw [(valueOf_eq_zero_iff negative).mpr rfl]
    rfl
  · obtain ⟨hlow, hhigh⟩ := hsize.resolve_left hc.ne'
    obtain ⟨c', k, rfl, hlt⟩ := hdigits
    have hc' : 0 < c' := Nat.pos_of_mul_pos_right hc
    have hshifted : Shifted (c' * 10 ^ k) x c' (x + k) := ⟨c', k, 0, rfl, by rw [Nat.pow_zero, Nat.mul_one], by omega⟩
    rw [adjusted_mul_pow hc'] at hlow hhigh
    obtain ⟨m, e, hm, hread, hvalue⟩ := shownValue_of_lt hc' hlt hlow hhigh negative
    rw [ofScientific_congr hshifted, valueOf_of_shifted hshifted, hread, shown?_finite hm, Option.some.injEq,
      Decimal.valueOf_eq_iff]
    exact hvalue

theorem sign_of_ofScientific {n : Bool} (h : ofScientific negative c x = finite n m e) : n = negative := by
  rw [ofScientific_withSign] at h
  cases hread : ofScientific false c x <;> rw [hread] at h <;> cases h
  rfl

/-- A decimal is shown as a number that is at most a unit of the mantissa away from it. -/
theorem abs_shown_sub_le {sign : Bool} (hm : 0 < m) (h : ofScientific negative c x = finite sign m e) :
    ∃ q, shown? (ofScientific negative c x) = some q ∧ |q - Decimal.valueOf negative c x| ≤ 2 ^ e := by
  obtain rfl := sign_of_ofScientific h
  have hcanonical : IsCanonical (finite sign m e) := h ▸ isCanonical_ofScientific sign c x
  refine ⟨_, by rw [h, shown?_finite hm], ?_⟩
  -- the digits that are shown are read as the same number
  have hshown := abs_sub_le_of_ofScientific hm (ofScientific_shortest hm hcanonical)
  have hread := abs_sub_le_of_ofScientific hm h
  rw [abs_valueOf_sub]
  rw [abs_sub_comm] at hshown
  calc _ ≤ _ := abs_sub_le _ ((m : ℚ) * 2 ^ e) _
    _ ≤ (2 : ℚ) ^ e / 2 + 2 ^ e / 2 := add_le_add hshown hread
    _ = 2 ^ e := add_halves _

/-- A decimal that is shown as it is has no more digits than are ever shown. -/
theorem hasDigits_of_shown? (h : shown? (ofScientific negative c x) = some (Decimal.valueOf negative c x)) :
    HasDigits 17 c := by
  have hcanonical := isCanonical_ofScientific negative c x
  cases hread : ofScientific negative c x with
  | finite n m e =>
    rw [hread] at h hcanonical
    rcases Nat.eq_zero_or_pos m with rfl | hm
    · rw [shown?, if_pos rfl, Option.some.injEq] at h
      obtain rfl := (valueOf_eq_zero_iff negative).mp h.symm
      exact hasDigits_of_le (by decide) (Nat.zero_le _)
    · obtain rfl := sign_of_ofScientific hread
      rw [shown?_finite hm, Option.some.injEq, Decimal.valueOf_eq_iff] at h
      exact hasDigits_congr h.symm (hasDigits_shortest hm hcanonical)
  | infinite n =>
    rw [hread] at h
    cases h
  | nan =>
    rw [hread] at h
    cases h

end Binary64
end SpannerSchema

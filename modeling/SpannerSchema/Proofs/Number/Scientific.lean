import SpannerSchema.Number.Binary64.Shortest
import SpannerSchema.Proofs.Number.Nearest
import SpannerSchema.Proofs.Text.Digits

/-! Decimals as binary numbers. Zeros at the end of a coefficient are as good as a higher power of ten, the sign goes through,
    and what arises is canonical. The shortest digits of a canonical number read back as it: they have been tried, or they
    are all its digits. -/

namespace SpannerSchema
namespace Binary64
open Text

variable {c m : Nat} {e x : Int} {negative : Bool}

theorem length_digitChars_mul_pow (hc : 0 < c) (k : Nat) :
    (digitChars (c * 10 ^ k)).length = (digitChars c).length + k := by
  rw [digitChars_mul_pow hc, List.length_append, List.length_replicate]

theorem adjusted_mul_pow (hc : 0 < c) (x : Int) (k : Nat) :
    Decimal.adjusted (c * 10 ^ k) x = Decimal.adjusted c (x + k) := by
  unfold Decimal.adjusted
  rw [length_digitChars_mul_pow hc]
  push_cast
  omega

/-- The number nearest to a coefficient at a power of ten, where none of the two bounds is passed. -/
theorem ofScientific_eq (hc : 0 < c) (negative : Bool) (x : Int) : ofScientific negative c x =
    if Decimal.adjusted c x < -330 then zero negative
    else if 310 < Decimal.adjusted c x then infinite negative
    else nearest negative (c * 10 ^ x.toNat) (10 ^ (-x).toNat) := by
  have hne : c ≠ 0 := hc.ne'
  unfold ofScientific
  simp [hne]

theorem ofScientific_mul_pow (negative : Bool) (c : Nat) (x : Int) (k : Nat) :
    ofScientific negative (c * 10 ^ k) x = ofScientific negative c (x + k) := by
  rcases Nat.eq_zero_or_pos c with rfl | hc
  · simp [ofScientific]
  have hnearest : nearest negative (c * 10 ^ k * 10 ^ x.toNat) (10 ^ (-x).toNat) =
      nearest negative (c * 10 ^ (x + k).toNat) (10 ^ (-(x + k)).toNat) := by
    refine nearest_congr (Nat.pow_pos (by decide)) (Nat.pow_pos (by decide)) ?_
    have hpowers : k + x.toNat + (-(x + k)).toNat = (x + k).toNat + (-x).toNat := by omega
    calc c * 10 ^ k * 10 ^ x.toNat * 10 ^ (-(x + k)).toNat = c * 10 ^ (k + x.toNat + (-(x + k)).toNat) := by ring
      _ = c * 10 ^ (x + k).toNat * 10 ^ (-x).toNat := by
          rw [hpowers]
          ring
  rw [ofScientific_eq (Nat.mul_pos hc (Nat.pow_pos (by decide))), ofScientific_eq hc, adjusted_mul_pow hc, hnearest]

/-- Two coefficients that differ in the zeros at their end, for which their exponents make up. -/
def Shifted (c : Nat) (x : Int) (c' : Nat) (x' : Int) : Prop :=
  ∃ n k k' : Nat, c = n * 10 ^ k ∧ c' = n * 10 ^ k' ∧ x + k = x' + k'

theorem ofScientific_congr {c' : Nat} {x' : Int} (h : Shifted c x c' x') (negative : Bool) :
    ofScientific negative c x = ofScientific negative c' x' := by
  obtain ⟨n, k, k', rfl, rfl, hx⟩ := h
  rw [ofScientific_mul_pow, ofScientific_mul_pow, hx]

theorem isCanonical_ofScientific (negative : Bool) (c : Nat) (x : Int) : IsCanonical (ofScientific negative c x) := by
  rcases Nat.eq_zero_or_pos c with rfl | hc
  · exact isCanonical_zero negative
  rw [ofScientific_eq hc]
  split
  · exact isCanonical_zero negative
  · split
    · trivial
    · exact isCanonical_nearest (Nat.pow_pos (by decide))

/-- The number with a sign in place of its own. -/
def withSign (negative : Bool) : Binary64 → Binary64
  | finite _ m e => finite negative m e
  | infinite _ => infinite negative
  | nan => nan

theorem ofMantissa_withSign (negative : Bool) (m : Nat) (e : Int) :
    ofMantissa negative m e = withSign negative (ofMantissa false m e) := by
  unfold ofMantissa
  dsimp only
  rw [apply_ite (withSign negative)]
  rfl

theorem nearest_withSign (negative : Bool) (num den : Nat) :
    nearest negative num den = withSign negative (nearest false num den) := by
  unfold nearest
  dsimp only
  rw [apply_ite (withSign negative), ← ofMantissa_withSign]
  rfl

/-- The sign has no part in the rounding. -/
theorem ofScientific_withSign (negative : Bool) (c : Nat) (x : Int) :
    ofScientific negative c x = withSign negative (ofScientific false c x) := by
  unfold ofScientific
  dsimp only
  rw [apply_ite (withSign negative), apply_ite (withSign negative), ← nearest_withSign]
  rfl

/-! ### The shortest digits -/

theorem ofScientific_of_onGrid? {g : Int} (h : onGrid? m e g = some c) : ofScientific false c g = finite false m e := by
  have hfound := List.find?_some h
  simpa using hfound

/-- The leading digit of a number below a power of ten. -/
theorem adjusted_lt {k : Nat} (hk : 0 < k) (h : c < 10 ^ k) (x : Int) : Decimal.adjusted c x < x + k := by
  have hlength : (digitChars c).length ≤ k := (Nat.length_toDigits_le_iff (by decide) hk).mpr h
  unfold Decimal.adjusted
  omega

theorem le_adjusted {k : Nat} (h : 10 ^ k ≤ c) (x : Int) : x + k ≤ Decimal.adjusted c x := by
  have hlength : k < (digitChars c).length := by
    rcases Nat.eq_zero_or_pos k with rfl | hk
    · exact Nat.length_toDigits_pos
    · have hlong := (Nat.length_toDigits_le_iff (b := 10) (n := c) (by decide) hk).not.mpr (not_lt.mpr h)
      exact not_le.mp hlong
  unfold Decimal.adjusted
  omega

/-- A number below the first power of two that is too large, in all its digits. -/
theorem adjusted_whole (hm : 0 < m) (hlt : m < 2 ^ 53) {k : Nat} (hk : k ≤ 971) :
    -330 ≤ Decimal.adjusted (m * 2 ^ k) 0 ∧ Decimal.adjusted (m * 2 ^ k) 0 ≤ 310 := by
  have hpos : 10 ^ 0 ≤ m * 2 ^ k := Nat.mul_pos hm (Nat.pow_pos (by decide))
  have hbelow : m * 2 ^ k < 10 ^ 311 := by
    calc m * 2 ^ k < 2 ^ 53 * 2 ^ k := by gcongr
      _ ≤ 2 ^ 53 * 2 ^ 971 := Nat.mul_le_mul_left _ (Nat.pow_le_pow_right (by decide) hk)
      _ < 10 ^ 311 := by decide +kernel
  have hlower := le_adjusted hpos 0
  have hupper := adjusted_lt (by decide) hbelow 0
  omega

theorem two_pow_le {k : Nat} (hk : k ≤ 744) : 2 ^ k ≤ 5 ^ 330 :=
  (Nat.pow_le_pow_right (by decide) hk).trans (by decide +kernel)

/-- A number with a fraction, in all its digits. -/
theorem adjusted_fraction (hm : 0 < m) (hlt : m < 2 ^ 53) {k : Nat} (hk : k ≤ 1074) :
    -330 ≤ Decimal.adjusted (m * 5 ^ k) (-k) ∧ Decimal.adjusted (m * 5 ^ k) (-k) ≤ 310 := by
  have hbelow : m * 5 ^ k < 10 ^ (16 + k) := by
    calc m * 5 ^ k < 2 ^ 53 * 5 ^ k := by gcongr
      _ ≤ 10 ^ 16 * 10 ^ k := Nat.mul_le_mul (by decide) (Nat.pow_le_pow_left (by decide) k)
      _ = 10 ^ (16 + k) := (Nat.pow_add 10 16 k).symm
  have habove : 10 ^ (k - 330) ≤ m * 5 ^ k := by
    rcases Nat.le_total k 330 with hsmall | hlarge
    · rw [Nat.sub_eq_zero_of_le hsmall]
      exact Nat.mul_pos hm (Nat.pow_pos (by decide))
    · calc 10 ^ (k - 330) = 2 ^ (k - 330) * 5 ^ (k - 330) := Nat.mul_pow 2 5 _
        _ ≤ 5 ^ 330 * 5 ^ (k - 330) := Nat.mul_le_mul_right _ (two_pow_le (by omega))
        _ = 5 ^ k := by rw [← Nat.pow_add, Nat.add_sub_cancel' hlarge]
        _ ≤ m * 5 ^ k := Nat.le_mul_of_pos_left _ hm
  have hlower := le_adjusted habove (-k)
  have hupper := adjusted_lt (by omega) hbelow (-k)
  omega

/-- All digits of a canonical number are of its value, and lie between the bounds. -/
theorem ofScientific_exactDigits (hm : 0 < m) (h : IsCanonical (finite negative m e)) :
    ofScientific negative (exactDigits m e).1 (exactDigits m e).2 = finite negative m e := by
  have hbounds := h
  obtain ⟨hlt, hleast, hmost, -⟩ := hbounds
  rcases le_total 0 e with he | he
  · obtain ⟨k, rfl⟩ := Int.eq_ofNat_of_zero_le he
    obtain ⟨hlower, hupper⟩ := adjusted_whole hm hlt (k := k) (by omega)
    have hdigits : exactDigits m k = (m * 2 ^ k, 0) := by simp [exactDigits]
    rw [hdigits, ofScientific_eq (by positivity), if_neg (not_lt.mpr hlower), if_neg (not_lt.mpr hupper)]
    refine nearest_of_isCanonical hm (Nat.pow_pos (by decide)) h ?_
    simp [valueOf]
  · obtain ⟨k, hk⟩ := Int.eq_ofNat_of_zero_le (Int.neg_nonneg_of_nonpos he)
    obtain rfl : e = -(k : Int) := by omega
    obtain ⟨hlower, hupper⟩ := adjusted_fraction hm hlt (k := k) (by omega)
    have hdigits : exactDigits m (-(k : Int)) = (m * 5 ^ k, -(k : Int)) := by simp [exactDigits]
    rw [hdigits, ofScientific_eq (by positivity), if_neg (not_lt.mpr hlower), if_neg (not_lt.mpr hupper)]
    refine nearest_of_isCanonical hm (Nat.pow_pos (by decide)) h ?_
    have hten : (10 : ℚ) ^ k = 2 ^ k * 5 ^ k := by rw [← mul_pow]; norm_num
    simp only [valueOf, Int.toNat_neg_natCast, pow_zero, mul_one, neg_neg, Int.toNat_natCast, Nat.cast_mul, Nat.cast_pow,
      Nat.cast_ofNat, zpow_neg, zpow_natCast, hten]
    field_simp

/-- The digits of a canonical number read back as it. -/
theorem ofScientific_shortest (hm : 0 < m) (h : IsCanonical (finite negative m e)) :
    ofScientific negative (shortest m e).1 (shortest m e).2 = finite negative m e := by
  unfold shortest
  dsimp only
  generalize hfound : List.findSome? _ _ = found
  cases found with
  | none => exact ofScientific_exactDigits hm h
  | some s =>
    obtain ⟨g, -, hg⟩ := List.exists_of_findSome?_eq_some hfound
    obtain ⟨c, hc, rfl⟩ := Option.map_eq_some_iff.mp hg
    rw [Option.getD_some, ofScientific_withSign, ofScientific_of_onGrid? hc]
    rfl

theorem shortest_pos (hm : 0 < m) (h : IsCanonical (finite negative m e)) : 0 < (shortest m e).1 := by
  have hread := ofScientific_shortest hm h
  refine Nat.pos_of_ne_zero fun hzero => ?_
  rw [hzero] at hread
  cases hread
  exact hm.ne' rfl

end Binary64
end SpannerSchema

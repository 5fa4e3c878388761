import Mathlib.Algebra.Order.Field.Power
import Mathlib.Data.Rat.Cast.Order
import Mathlib.Tactic.FieldSimp
import Mathlib.Tactic.Linarith
import Mathlib.Tactic.NormNum
import Mathlib.Tactic.Positivity
import Mathlib.Tactic.Ring
import SpannerSchema.Number.Binary64

/-! The nearest binary number. The exponent at which a fraction is rounded is the only one that leaves a mantissa of 53 bits,
    or the least; so it and the result depend on the value of the fraction alone, the result is canonical, and a fraction
    that is a canonical number is rounded to it. -/

namespace SpannerSchema
namespace Binary64

variable {num den num' den' k m : Nat} {e e' : Int} {negative : Bool}

/-! ### Rounding a quotient -/

theorem roundDiv_mul_left (hk : 0 < k) (num den : Nat) : roundDiv (k * num) (k * den) = roundDiv num den := by
  have htwice : 2 * (k * (num % den)) = k * (2 * (num % den)) := by ring
  unfold roundDiv
  simp only [Nat.mul_div_mul_left num den hk, Nat.mul_mod_mul_left, htwice, Nat.mul_lt_mul_left hk, beq_iff_eq,
    Nat.mul_right_inj hk.ne', Bool.or_eq_true, Bool.and_eq_true, decide_eq_true_eq]

/-- The quotient of equal fractions is rounded to the same integer. -/
theorem roundDiv_congr (hden : 0 < den) (hden' : 0 < den') (h : num * den' = num' * den) :
    roundDiv num den = roundDiv num' den' := by
  rw [← roundDiv_mul_left hden' num den, ← roundDiv_mul_left hden num' den', Nat.mul_comm den' num, h,
    Nat.mul_comm num' den, Nat.mul_comm den' den]

theorem roundDiv_mul_self (hden : 0 < den) (m : Nat) : roundDiv (m * den) den = m := by
  simp [roundDiv, Nat.mul_div_cancel m hden, hden]

theorem roundDiv_le (h : num < m * den) : roundDiv num den ≤ m := by
  have hquotient : num / den < m := Nat.div_lt_of_lt_mul (by rwa [Nat.mul_comm] at h)
  unfold roundDiv
  dsimp only
  split
  · exact hquotient.le
  · exact hquotient

theorem le_roundDiv (hden : 0 < den) (h : m * den ≤ num) : m ≤ roundDiv num den := by
  have hquotient : m ≤ num / den := (Nat.le_div_iff_mul_le hden).mpr h
  unfold roundDiv
  dsimp only
  split
  · exact hquotient
  · exact hquotient.trans (Nat.le_succ _)

/-! ### The exponent -/

/-- The value of a fraction. -/
def valueOf (num den : Nat) : ℚ := num / den

/-- At the exponent `e` the number `v` has a mantissa of at most 53 bits, and of no less unless `e` is the least. -/
structure Fits (v : ℚ) (e : Int) : Prop where
  least : -1074 ≤ e
  upper : v < 2 ^ 53 * 2 ^ e
  lower : e = -1074 ∨ 2 ^ 52 * 2 ^ e ≤ v

theorem Fits.le {v : ℚ} (h : Fits v e) (h' : Fits v e') : e' ≤ e := by
  by_contra hlt
  have hle : e + 1 ≤ e' := by omega
  rcases h'.lower with rfl | hlower
  · exact absurd h.least (by omega)
  · have hpow : (2 : ℚ) ^ (e + 1) ≤ 2 ^ e' := zpow_le_zpow_right₀ (by norm_num) hle
    rw [zpow_add_one₀ (by norm_num)] at hpow
    have hupper := h.upper
    linarith

theorem Fits.unique {v : ℚ} (h : Fits v e) (h' : Fits v e') : e = e' := le_antisymm (h'.le h) (h.le h')

theorem pow_toNat_mul (base : Nat) (hbase : 0 < base) (e : Int) :
    (base : ℚ) ^ e * (base ^ (-e).toNat : Nat) = (base ^ e.toNat : Nat) := by
  have hne : (base : ℚ) ≠ 0 := by positivity
  push_cast
  rw [← zpow_natCast, ← zpow_natCast, ← zpow_add₀ hne]
  congr 1
  omega

/-- The fraction over a power is the value over that power. -/
theorem overPower_eq (hbase : 0 < k) (num : Nat) (hden : 0 < den) (e : Int) :
    0 < (overPower k num den e).2 ∧
    ((overPower k num den e).1 : ℚ) = valueOf num den / (k : ℚ) ^ e * (overPower k num den e).2 := by
  have hne : (k : ℚ) ^ e ≠ 0 := by positivity
  have hden' : (den : ℚ) ≠ 0 := by positivity
  have hpow := pow_toNat_mul k hbase e
  constructor
  · exact Nat.mul_pos hden (Nat.pow_pos hbase)
  · unfold overPower valueOf
    simp only [Nat.pow_eq] at *
    push_cast at hpow ⊢
    rw [← hpow]
    field_simp

/-- The value lies within a factor of two of the quotient of the leading powers. -/
theorem valueOf_bounds (hnum : 0 < num) (hden : 0 < den) {d : Int} (hd : d = (num.log2 : Int) - den.log2) :
    2 ^ (d - 1) < valueOf num den ∧ valueOf num den < 2 ^ (d + 1) := by
  have hnumLower : (2 : ℚ) ^ (num.log2 : Int) ≤ num := by exact_mod_cast Nat.log2_self_le hnum.ne'
  have hnumUpper : (num : ℚ) < 2 ^ ((num.log2 : Int) + 1) := by exact_mod_cast Nat.lt_log2_self (n := num)
  have hdenLower : (2 : ℚ) ^ (den.log2 : Int) ≤ den := by exact_mod_cast Nat.log2_self_le hden.ne'
  have hdenUpper : (den : ℚ) < 2 ^ ((den.log2 : Int) + 1) := by exact_mod_cast Nat.lt_log2_self (n := den)
  have hpos : (0 : ℚ) < den := by exact_mod_cast hden
  have htwo : (2 : ℚ) ≠ 0 := by norm_num
  unfold valueOf
  constructor
  · rw [lt_div_iff₀ hpos]
    calc (2 : ℚ) ^ (d - 1) * den < 2 ^ (d - 1) * 2 ^ ((den.log2 : Int) + 1) := by gcongr
      _ = 2 ^ (num.log2 : Int) := by
          rw [← zpow_add₀ htwo]
          congr 1
          omega
      _ ≤ num := hnumLower
  · rw [div_lt_iff₀ hpos]
    calc (num : ℚ) < 2 ^ ((num.log2 : Int) + 1) := hnumUpper
      _ = 2 ^ (d + 1) * 2 ^ (den.log2 : Int) := by
          rw [← zpow_add₀ htwo]
          congr 1
          omega
      _ ≤ 2 ^ (d + 1) * den := by gcongr

theorem fits_exponentOf (hnum : 0 < num) (hden : 0 < den) : Fits (valueOf num den) (exponentOf num den) := by
  obtain ⟨hlower, hupper⟩ := valueOf_bounds hnum hden rfl
  set d : Int := (num.log2 : Int) - den.log2 with hd
  obtain ⟨hpos, hscaled⟩ := overPower_eq Nat.two_pos num hden (d - 53)
  have hpos' : (0 : ℚ) < (overPower 2 num den (d - 53)).2 := by exact_mod_cast hpos
  have htwo : (2 : ℚ) ≠ 0 := by norm_num
  have hpow (x : Int) (n : Nat) : (2 : ℚ) ^ n * 2 ^ x = 2 ^ (x + n) := by
    rw [zpow_add₀ htwo, zpow_natCast, mul_comm]
  -- the mantissa at the first guess has 53 or 54 bits
  have hguess : (overPower 2 num den (d - 53)).2 * 2 ^ 53 ≤ (overPower 2 num den (d - 53)).1 ↔
      (2 : ℚ) ^ d ≤ valueOf num den := by
    rw [← Nat.cast_le (α := ℚ), hscaled]
    have hsize : (2 : ℚ) ^ 53 * 2 ^ (d - 53) = 2 ^ d := by
      rw [hpow]
      congr 1
      omega
    rw [Nat.cast_mul, Nat.cast_pow, Nat.cast_ofNat, mul_comm, mul_le_mul_iff_left₀ hpos', le_div_iff₀ (by positivity), hsize]
  have hexponent : exponentOf num den = max (if (2 : ℚ) ^ d ≤ valueOf num den then d - 52 else d - 53) (-1074) := by
    unfold exponentOf
    simp only [Nat.pow_eq, ← hd, hguess]
    congr 2
    omega
  have hfits (e : Int) (hupper : valueOf num den < 2 ^ (e + 53)) (hlower : 2 ^ (e + 52) ≤ valueOf num den) :
      Fits (valueOf num den) (max e (-1074)) := by
    refine ⟨le_max_right .., ?_, ?_⟩
    · calc valueOf num den < 2 ^ (e + 53) := hupper
        _ ≤ 2 ^ (max e (-1074) + 53) := zpow_le_zpow_right₀ (by norm_num) (by omega)
        _ = 2 ^ 53 * 2 ^ max e (-1074) := (hpow _ 53).symm
    · rcases le_total (-1074) e with hle | hle
      · rw [max_eq_left hle, hpow]
        exact .inr hlower
      · exact .inl (max_eq_right hle)
  by_cases hbig : (2 : ℚ) ^ d ≤ valueOf num den
  · have hplus : d - 52 + 53 = d + 1 := by omega
    have hminus : d - 52 + 52 = d := by omega
    rw [hexponent, if_pos hbig]
    exact hfits (d - 52) (by rwa [hplus]) (by rwa [hminus])
  · have hplus : d - 53 + 53 = d := by omega
    have hminus : d - 53 + 52 = d - 1 := by omega
    rw [hexponent, if_neg hbig]
    exact hfits (d - 53) (by rw [hplus]; exact not_le.mp hbig) (by rw [hminus]; exact hlower.le)

theorem exponentOf_congr (hnum : 0 < num) (hden : 0 < den) (hnum' : 0 < num') (hden' : 0 < den')
    (h : valueOf num den = valueOf num' den') : exponentOf num den = exponentOf num' den' :=
  (fits_exponentOf hnum hden).unique (h ▸ fits_exponentOf hnum' hden')

/-! ### The nearest number -/

/-- A number as `nearest` gives it: with the most bits that its mantissa may have, or at the least exponent. -/
def IsCanonical : Binary64 → Prop
  | finite _ m e => m < 2 ^ 53 ∧ -1074 ≤ e ∧ e ≤ 971 ∧ (e = -1074 ∨ 2 ^ 52 ≤ m)
  | _ => True

theorem valueOf_eq_iff (hden : 0 < den) (hden' : 0 < den') : valueOf num den = valueOf num' den' ↔ num * den' = num' * den := by
  have hne : (den : ℚ) ≠ 0 := by positivity
  have hne' : (den' : ℚ) ≠ 0 := by positivity
  rw [valueOf, valueOf, div_eq_div_iff hne hne']
  exact_mod_cast Iff.rfl

/-- The mantissa at an exponent. -/
def mantissaAt (num den : Nat) (e : Int) : Nat := roundDiv (overPower 2 num den e).1 (overPower 2 num den e).2

theorem nearest_eq (hnum : 0 < num) :
    nearest negative num den = ofMantissa negative (mantissaAt num den (exponentOf num den)) (exponentOf num den) := by
  rw [nearest, if_neg hnum.ne']
  rfl

theorem nearest_congr (hden : 0 < den) (hden' : 0 < den') (h : num * den' = num' * den) :
    nearest negative num den = nearest negative num' den' := by
  rcases Nat.eq_zero_or_pos num with rfl | hnum
  · obtain rfl : num' = 0 := by
      rw [Nat.zero_mul] at h
      exact (Nat.mul_eq_zero.mp h.symm).resolve_right hden.ne'
    rw [nearest, nearest, if_pos rfl, if_pos rfl]
  · have hnum' : 0 < num' := Nat.pos_of_mul_pos_right (h ▸ Nat.mul_pos hnum hden')
    have hvalue := (valueOf_eq_iff hden hden').mpr h
    rw [nearest_eq hnum, nearest_eq hnum', ← exponentOf_congr hnum hden hnum' hden' hvalue]
    congr 1
    obtain ⟨hpos, hscaled⟩ := overPower_eq Nat.two_pos num hden (exponentOf num den)
    obtain ⟨hpos', hscaled'⟩ := overPower_eq Nat.two_pos num' hden' (exponentOf num den)
    refine roundDiv_congr hpos hpos' ?_
    rw [← Nat.cast_inj (R := ℚ), Nat.cast_mul, Nat.cast_mul, hscaled, hscaled', hvalue]
    ring

/-- A canonical number is the nearest to its own value. -/
theorem nearest_of_isCanonical (hm : 0 < m) (hden : 0 < den) (hcanonical : IsCanonical (finite negative m e))
    (h : valueOf num den = m * 2 ^ e) : nearest negative num den = finite negative m e := by
  obtain ⟨hlt, hleast, hmost, hnormal⟩ := hcanonical
  have hpos : (0 : ℚ) < 2 ^ e := by positivity
  have hnum : 0 < num := by
    refine Nat.pos_of_ne_zero ?_
    rintro rfl
    have hzero : (m : ℚ) * 2 ^ e = 0 := by
      rw [← h]
      simp [valueOf]
    have hm' : (m : ℚ) ≠ 0 := by positivity
    exact mul_ne_zero hm' hpos.ne' hzero
  have hfits : Fits (valueOf num den) e := by
    refine ⟨hleast, ?_, ?_⟩
    · rw [h]
      gcongr
      exact_mod_cast hlt
    · refine hnormal.imp_right fun hm => ?_
      rw [h]
      gcongr
      exact_mod_cast hm
  have hexponent : exponentOf num den = e := (fits_exponentOf hnum hden).unique hfits
  have hmantissa : mantissaAt num den e = m := by
    obtain ⟨hpos', hscaled⟩ := overPower_eq Nat.two_pos num hden e
    have hexact : (overPower 2 num den e).1 = m * (overPower 2 num den e).2 := by
      rw [← Nat.cast_inj (R := ℚ), hscaled, h]
      push_cast
      field_simp
    rw [mantissaAt, hexact, roundDiv_mul_self hpos']
  have hne : m ≠ Nat.pow 2 53 := hlt.ne
  rw [nearest_eq hnum, hexponent, hmantissa, ofMantissa]
  simp only [if_neg hne, if_neg (not_lt.mpr hmost)]

theorem isCanonical_zero (negative : Bool) : IsCanonical (zero negative) := ⟨by decide, by decide, by decide, .inl rfl⟩

theorem isCanonical_nearest (hden : 0 < den) : IsCanonical (nearest negative num den) := by
  rcases Nat.eq_zero_or_pos num with rfl | hnum
  · exact isCanonical_zero negative
  rw [nearest_eq hnum]
  have hfits := fits_exponentOf hnum hden
  set e := exponentOf num den
  obtain ⟨hpos, hscaled⟩ := overPower_eq Nat.two_pos num hden e
  have hpos' : (0 : ℚ) < (overPower 2 num den e).2 := by exact_mod_cast hpos
  have htwo : (0 : ℚ) < 2 ^ e := by positivity
  have hle : mantissaAt num den e ≤ 2 ^ 53 := by
    refine roundDiv_le ?_
    rw [← Nat.cast_lt (α := ℚ), hscaled]
    push_cast
    gcongr
    exact (div_lt_iff₀ htwo).mpr hfits.upper
  have hge : e = -1074 ∨ 2 ^ 52 ≤ mantissaAt num den e := by
    refine hfits.lower.imp_right fun hlower => le_roundDiv hpos ?_
    rw [← Nat.cast_le (α := ℚ), hscaled]
    push_cast
    gcongr
    exact (le_div_iff₀ htwo).mpr hlower
  have hleast := hfits.least
  unfold ofMantissa
  by_cases hcarry : mantissaAt num den e = Nat.pow 2 53
  · simp only [if_pos hcarry]
    split
    · trivial
    · exact ⟨by decide, by omega, by omega, .inr le_rfl⟩
  · simp only [if_neg hcarry]
    split
    · trivial
    · exact ⟨lt_of_le_of_ne hle hcarry, hleast, by omega, hge⟩

end Binary64
end SpannerSchema

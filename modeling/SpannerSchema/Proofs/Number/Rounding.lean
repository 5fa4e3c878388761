import Mathlib.Algebra.Order.Archimedean.Basic
import SpannerSchema.Proofs.Number.Scientific

/-! How far a decimal is from the binary number that it is read as. It is at most half a unit of the mantissa away; and each
    decimal that is nearer than half a unit to a binary number is read as that number, or nearer than a quarter of one where it
    lies below a power of two, for the numbers stand twice as close there. -/

namespace SpannerSchema
namespace Binary64
open Text

variable {num den c m k : Nat} {e x : Int} {negative : Bool}

/-! ### Quotients -/

theorem roundDiv_bounds (num : Nat) (hden : 0 < den) :
    2 * num ≤ 2 * (roundDiv num den * den) + den ∧ 2 * (roundDiv num den * den) ≤ 2 * num + den := by
  have hdiv := Nat.div_add_mod num den
  have hmod := Nat.mod_lt num hden
  have hproduct : num / den * den = den * (num / den) := Nat.mul_comm ..
  unfold roundDiv
  dsimp only
  split
  · next hdown =>
    simp only [Bool.or_eq_true, Bool.and_eq_true, decide_eq_true_eq, beq_iff_eq] at hdown
    omega
  · next hup =>
    simp only [Bool.or_eq_true, Bool.and_eq_true, decide_eq_true_eq, beq_iff_eq, not_or] at hup
    rw [Nat.add_mul, Nat.one_mul]
    omega

theorem abs_roundDiv_sub_le (num : Nat) (hden : 0 < den) : |(roundDiv num den : ℚ) - valueOf num den| ≤ 1 / 2 := by
  obtain ⟨hlower, hupper⟩ := roundDiv_bounds num hden
  have hlower' : (2 : ℚ) * num ≤ 2 * (roundDiv num den * den) + den := by exact_mod_cast hlower
  have hupper' : (2 : ℚ) * (roundDiv num den * den) ≤ 2 * num + den := by exact_mod_cast hupper
  have hden' : (0 : ℚ) < den := by exact_mod_cast hden
  have hvalue : valueOf num den * den = num := div_mul_cancel₀ _ hden'.ne'
  rw [← hvalue] at hlower' hupper'
  rw [abs_le]
  constructor <;> nlinarith

theorem roundDiv_eq_of_lt (hden : 0 < den) (h : |(k : ℚ) - valueOf num den| < 1 / 2) : roundDiv num den = k := by
  have hround := abs_roundDiv_sub_le num hden
  rw [abs_le] at hround
  rw [abs_lt] at h
  have hbelow : (roundDiv num den : ℚ) < k + 1 := by linarith
  have habove : (k : ℚ) < roundDiv num den + 1 := by linarith
  norm_cast at hbelow habove
  omega

/-! ### Multiples of a power -/

theorem valueOf_overPower (hk : 0 < k) (num : Nat) (hden : 0 < den) (e : Int) :
    valueOf (overPower k num den e).1 (overPower k num den e).2 = valueOf num den / (k : ℚ) ^ e := by
  obtain ⟨hpos, hscaled⟩ := overPower_eq hk num hden e
  have hne : ((overPower k num den e).2 : ℚ) ≠ 0 := by positivity
  rw [valueOf, hscaled, mul_div_assoc, div_self hne, mul_one]

/-- The multiple of a power that is nearest to a fraction. -/
def nearestMultiple (base num den : Nat) (e : Int) : Nat := roundDiv (overPower base num den e).1 (overPower base num den e).2

theorem abs_nearestMultiple_sub_le (hk : 0 < k) (num : Nat) (hden : 0 < den) (e : Int) :
    |(nearestMultiple k num den e : ℚ) * (k : ℚ) ^ e - valueOf num den| ≤ (k : ℚ) ^ e / 2 := by
  have hpos : (0 : ℚ) < (k : ℚ) ^ e := by positivity
  have hround := abs_roundDiv_sub_le (overPower k num den e).1 (overPower_eq hk num hden e).1
  rw [valueOf_overPower hk num hden, ← nearestMultiple] at hround
  have hscaled : (nearestMultiple k num den e : ℚ) * (k : ℚ) ^ e - valueOf num den =
      (nearestMultiple k num den e - valueOf num den / (k : ℚ) ^ e) * (k : ℚ) ^ e := by
    field_simp
  rw [hscaled, abs_mul, abs_of_pos hpos]
  nlinarith

theorem nearestMultiple_eq_of_lt (hk : 0 < k) (hden : 0 < den)
    (h : |(m : ℚ) * (k : ℚ) ^ e - valueOf num den| < (k : ℚ) ^ e / 2) : nearestMultiple k num den e = m := by
  have hpos : (0 : ℚ) < (k : ℚ) ^ e := by positivity
  refine roundDiv_eq_of_lt (overPower_eq hk num hden e).1 ?_
  rw [valueOf_overPower hk num hden]
  have hscaled : (m : ℚ) - valueOf num den / (k : ℚ) ^ e = (m * (k : ℚ) ^ e - valueOf num den) / (k : ℚ) ^ e := by
    field_simp
  rw [hscaled, abs_div, abs_of_pos hpos, div_lt_iff₀ hpos]
  linarith

/-! ### The nearest number -/

theorem mantissaAt_eq (num den : Nat) (e : Int) : mantissaAt num den e = nearestMultiple 2 num den e := rfl

/-- A fraction is at most half a unit away from the number that is nearest to it. -/
theorem abs_sub_le_of_nearest (hnum : 0 < num) (hden : 0 < den) (h : nearest negative num den = finite negative m e) :
    |(m : ℚ) * 2 ^ e - valueOf num den| ≤ 2 ^ e / 2 := by
  have hround := abs_nearestMultiple_sub_le Nat.two_pos num hden (exponentOf num den)
  rw [← mantissaAt_eq, Nat.cast_ofNat] at hround
  have hpos : (0 : ℚ) < 2 ^ exponentOf num den := by positivity
  rw [nearest_eq hnum, ofMantissa] at h
  split at h
  · next hcarry =>
    -- the mantissa is carried over into the next power of two, where a unit is twice as large
    have hsame : ((Nat.pow 2 52 : Nat) : ℚ) * (2 ^ exponentOf num den * 2) = (Nat.pow 2 53 : Nat) * 2 ^ exponentOf num den := by
      simp only [Nat.pow_eq]
      push_cast
      ring
    rw [hcarry] at hround
    split at h
    · cases h
    · cases h
      rw [zpow_add_one₀ (by norm_num), hsame]
      linarith
  · split at h
    · cases h
    · cases h
      exact hround

theorem nearest_of_fits (hnum : 0 < num) (hden : 0 < den) (hfits : Fits (valueOf num den) e) (negative : Bool) :
    nearest negative num den = ofMantissa negative (mantissaAt num den e) e := by
  rw [nearest_eq hnum, (fits_exponentOf hnum hden).unique hfits]

/-- A fraction close enough to a number is rounded to it. -/
theorem nearest_of_close (hm : 0 < m) (hden : 0 < den) (hcanonical : IsCanonical (finite negative m e))
    (h : |(m : ℚ) * 2 ^ e - valueOf num den| < 2 ^ e / 2) (hbelow : m = 2 ^ 52 → m * 2 ^ e - valueOf num den < 2 ^ e / 4) :
    nearest negative num den = finite negative m e := by
  obtain ⟨hlt, hleast, hmost, hnormal⟩ := hcanonical
  have hpos : (0 : ℚ) < 2 ^ e := by positivity
  have hm' : (1 : ℚ) ≤ m := by exact_mod_cast hm
  have hlt' : (m : ℚ) ≤ 2 ^ 53 - 1 := by
    have hle : m + 1 ≤ 2 ^ 53 := hlt
    have hcast : (m : ℚ) + 1 ≤ 2 ^ 53 := by exact_mod_cast hle
    linarith
  have hdistance := abs_lt.mp h
  have hvalue : 0 < valueOf num den := by nlinarith
  have hnum : 0 < num := by
    refine Nat.pos_of_ne_zero ?_
    rintro rfl
    simp [valueOf] at hvalue
  by_cases hlower : e = -1074 ∨ 2 ^ 52 * 2 ^ e ≤ valueOf num den
  · have hfits : Fits (valueOf num den) e := ⟨hleast, by nlinarith, hlower⟩
    have hmantissa : mantissaAt num den e = m := nearestMultiple_eq_of_lt Nat.two_pos hden (by exact_mod_cast h)
    have hne : m ≠ Nat.pow 2 53 := hlt.ne
    rw [nearest_of_fits hnum hden hfits, hmantissa, ofMantissa]
    simp only [if_neg hne, if_neg (not_lt.mpr hmost)]
  · -- the number is a power of two, and the fraction lies below it, where a unit is half as large
    obtain ⟨hne, hbelow'⟩ := not_or.mp hlower
    have hpower : m = 2 ^ 52 := by
      have hge := hnormal.resolve_left hne
      by_contra hnot
      have hle : 2 ^ 52 + 1 ≤ m := by omega
      have hle' : (2 : ℚ) ^ 52 + 1 ≤ m := by exact_mod_cast hle
      nlinarith
    subst hpower
    have hunit : (2 : ℚ) ^ e = 2 * 2 ^ (e - 1) := by
      rw [mul_comm, ← zpow_add_one₀ (by norm_num), sub_add_cancel]
    have hquarter := hbelow rfl
    rw [hunit] at hdistance hquarter hbelow' hpos
    push_cast at hdistance hquarter hbelow'
    have hfits : Fits (valueOf num den) (e - 1) := ⟨by omega, by linarith, .inr (by linarith)⟩
    have hmantissa : mantissaAt num den (e - 1) = 2 ^ 53 := by
      refine nearestMultiple_eq_of_lt Nat.two_pos hden ?_
      push_cast
      rw [abs_lt]
      constructor <;> linarith
    rw [nearest_of_fits hnum hden hfits, hmantissa, ofMantissa]
    simp [not_lt.mpr hmost]

/-- A fraction that is neither too small nor too large has a full mantissa. -/
theorem nearest_full (hnum : 0 < num) (hden : 0 < den) (hleast : (2 : ℚ) ^ 52 * 2 ^ (-1074 : Int) ≤ valueOf num den)
    (hmost : valueOf num den < (2 ^ 53 - 1) * 2 ^ (971 : Int)) (negative : Bool) :
    ∃ m e, 2 ^ 52 ≤ m ∧ nearest negative num den = finite negative m e := by
  have hfits := fits_exponentOf hnum hden
  have hdistance := abs_nearestMultiple_sub_le Nat.two_pos num hden (exponentOf num den)
  rw [nearest_eq hnum, mantissaAt_eq, ofMantissa]
  generalize exponentOf num den = e at hfits hdistance
  generalize nearestMultiple 2 num den e = m at hdistance
  rw [Nat.cast_ofNat, abs_le] at hdistance
  have hpos : (0 : ℚ) < 2 ^ e := by positivity
  have hfull : (2 : ℚ) ^ 52 * 2 ^ e ≤ valueOf num den := by
    rcases hfits.lower with rfl | h
    · exact hleast
    · exact h
  have hmantissa : 2 ^ 52 ≤ m := by
    have hclose : (2 : ℚ) ^ 52 < m + 1 := by nlinarith
    norm_cast at hclose
    omega
  have hpower (k : Nat) (hk : (971 : Int) + k ≤ e) : (2 : ℚ) ^ k * 2 ^ (971 : Int) ≤ 2 ^ e := by
    rw [← zpow_natCast, ← zpow_add₀ (by norm_num), add_comm]
    exact zpow_le_zpow_right₀ (by norm_num) hk
  generalize (2 : ℚ) ^ (971 : Int) = unit at hmost hpower
  by_cases hcarry : m = Nat.pow 2 53
  · have hle : e + 1 ≤ 971 := by
      by_contra hlt
      have hlarge := hpower 0 (by omega)
      have hcarry' : (m : ℚ) = 2 ^ 53 := by exact_mod_cast hcarry
      rw [hcarry'] at hdistance
      linarith
    simp only [if_pos hcarry, if_neg (not_lt.mpr hle)]
    exact ⟨_, _, le_rfl, rfl⟩
  · have hle : e ≤ 971 := by
      by_contra hlt
      have hlarge := hpower 1 (by omega)
      linarith
    simp only [if_neg hcarry, if_neg (not_lt.mpr hle)]
    exact ⟨m, e, hmantissa, rfl⟩

end Binary64
end SpannerSchema

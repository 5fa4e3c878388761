import SpannerSchema.Proofs.Number.Rounding

/-! The number that the shortest digits of a binary number make. -/

namespace SpannerSchema
namespace Binary64
open Text

variable {num den c m k n : Nat} {e g x : Int} {negative : Bool}

/-! ### Decimals -/

/-- Zeros stand at the end of a coefficient or in its exponent. -/
theorem mul_pow_mul_zpow (n k : Nat) (x : Int) : ((n * 10 ^ k : Nat) : ℚ) * 10 ^ x = n * 10 ^ (x + k) := by
  rw [zpow_add₀ (by norm_num), zpow_natCast]
  push_cast
  ring

/-- A decimal that is within the bounds of reading is read as the number nearest to its value. -/
theorem exists_nearest (hc : 0 < c) (hlow : -330 ≤ Decimal.adjusted c x) (hhigh : Decimal.adjusted c x ≤ 310)
    (negative : Bool) : ∃ num den, 0 < num ∧ 0 < den ∧ valueOf num den = c * 10 ^ x ∧
      ofScientific negative c x = nearest negative num den := by
  refine ⟨c * 10 ^ x.toNat, 10 ^ (-x).toNat, by positivity, by positivity, ?_, ?_⟩
  · have hpow := pow_toNat_mul 10 (by decide) x
    have hne : ((10 ^ (-x).toNat : Nat) : ℚ) ≠ 0 := by positivity
    rw [valueOf, div_eq_iff hne, mul_assoc]
    push_cast at hpow ⊢
    rw [hpow]
  · rw [ofScientific_eq hc, if_neg (not_lt.mpr hlow), if_neg (not_lt.mpr hhigh)]

/-- A decimal that is read as a number other than zero lies between the bounds. -/
theorem adjusted_mem_of_ofScientific (hm : 0 < m) (h : ofScientific negative c x = finite negative m e) :
    0 < c ∧ -330 ≤ Decimal.adjusted c x ∧ Decimal.adjusted c x ≤ 310 := by
  have hzero : zero negative ≠ finite negative m e := by
    intro heq
    cases heq
    exact hm.ne' rfl
  have hc : 0 < c := by
    refine Nat.pos_of_ne_zero ?_
    rintro rfl
    exact hzero h
  rw [ofScientific_eq hc] at h
  split at h
  · exact absurd h hzero
  · next hlow =>
    split at h
    · cases h
    · next hhigh => exact ⟨hc, not_lt.mp hlow, not_lt.mp hhigh⟩

/-- A decimal is at most half a unit away from the number that it is read as. -/
theorem abs_sub_le_of_ofScientific (hm : 0 < m) (h : ofScientific negative c x = finite negative m e) :
    |(m : ℚ) * 2 ^ e - c * 10 ^ x| ≤ 2 ^ e / 2 := by
  obtain ⟨hc, hlow, hhigh⟩ := adjusted_mem_of_ofScientific hm h
  obtain ⟨num, den, hnum, hden, hvalue, hnearest⟩ := exists_nearest hc hlow hhigh negative
  rw [← hvalue]
  exact abs_sub_le_of_nearest hnum hden (hnearest ▸ h)

/-! ### The leading digit -/

theorem pow_pred_le_of_length (hn : 0 < n) : 10 ^ ((digitChars n).length - 1) ≤ n ∧ n < 10 ^ (digitChars n).length := by
  have hpos : 0 < (digitChars n).length := Nat.length_toDigits_pos
  constructor
  · by_contra hlt
    rcases Nat.eq_zero_or_pos ((digitChars n).length - 1) with hzero | hk
    · rw [hzero] at hlt
      omega
    · have hle := (Nat.length_toDigits_le_iff (b := 10) (n := n) (by decide) hk).mpr (not_le.mp hlt)
      rw [← digitChars] at hle
      omega
  · exact (Nat.length_toDigits_le_iff (b := 10) (n := n) (by decide) hpos).mp le_rfl

/-- A number lies between the powers of ten of its leading digit. -/
theorem pow_bounds (hn : 0 < n) :
    (10 : ℚ) ^ (((digitChars n).length : Int) - 1) ≤ n ∧ (n : ℚ) < 10 ^ ((digitChars n).length : Int) := by
  obtain ⟨hlower, hupper⟩ := pow_pred_le_of_length hn
  have hlength : ((digitChars n).length : Int) - 1 = ((digitChars n).length - 1 : Nat) := by
    have hpos : 0 < (digitChars n).length := Nat.length_toDigits_pos
    omega
  rw [hlength, zpow_natCast, zpow_natCast]
  exact ⟨by exact_mod_cast hlower, by exact_mod_cast hupper⟩

theorem adjusted_bounds (hc : 0 < c) (x : Int) :
    (10 : ℚ) ^ Decimal.adjusted c x ≤ c * 10 ^ x ∧ c * 10 ^ x < (10 : ℚ) ^ (Decimal.adjusted c x + 1) := by
  obtain ⟨hlower, hupper⟩ := pow_bounds hc
  have hten : (10 : ℚ) ≠ 0 := by norm_num
  have hlow : Decimal.adjusted c x = ((digitChars c).length : Int) - 1 + x := by
    unfold Decimal.adjusted
    omega
  have hhigh : Decimal.adjusted c x + 1 = ((digitChars c).length : Int) + x := by
    unfold Decimal.adjusted
    omega
  rw [hhigh, hlow, zpow_add₀ hten, zpow_add₀ hten]
  constructor <;> gcongr

/-- A fraction lies between the powers of ten of its size. -/
theorem decimalSize_bounds (hnum : 0 < num) (hden : 0 < den) :
    (10 : ℚ) ^ (decimalSize num den - 1) ≤ valueOf num den ∧ valueOf num den < 10 ^ decimalSize num den := by
  obtain ⟨hnumLower, hnumUpper⟩ := pow_bounds hnum
  obtain ⟨hdenLower, hdenUpper⟩ := pow_bounds hden
  set d : Int := ((digitChars num).length : Int) - (digitChars den).length with hd
  have hten : (10 : ℚ) ≠ 0 := by norm_num
  have hden' : (0 : ℚ) < den := by exact_mod_cast hden
  have hlower : (10 : ℚ) ^ (d - 1) ≤ valueOf num den := by
    rw [valueOf, le_div_iff₀ hden']
    calc (10 : ℚ) ^ (d - 1) * den ≤ 10 ^ (d - 1) * 10 ^ ((digitChars den).length : Int) := by gcongr
      _ = 10 ^ (((digitChars num).length : Int) - 1) := by
          rw [← zpow_add₀ hten]
          congr 1
          omega
      _ ≤ num := hnumLower
  have hupper : valueOf num den < 10 ^ (d + 1) := by
    rw [valueOf, div_lt_iff₀ hden']
    calc (num : ℚ) < 10 ^ ((digitChars num).length : Int) := hnumUpper
      _ = 10 ^ (d + 1) * 10 ^ (((digitChars den).length : Int) - 1) := by
          rw [← zpow_add₀ hten]
          congr 1
          omega
      _ ≤ 10 ^ (d + 1) * den := by gcongr
  have hscaled : (overPower 10 num den d).2 ≤ (overPower 10 num den d).1 ↔ (10 : ℚ) ^ d ≤ valueOf num den := by
    obtain ⟨hpos, -⟩ := overPower_eq (k := 10) (by decide) num hden d
    have hpos' : (0 : ℚ) < (overPower 10 num den d).2 := by exact_mod_cast hpos
    have hvalue := valueOf_overPower (k := 10) (by decide) num hden d
    rw [valueOf, div_eq_iff hpos'.ne'] at hvalue
    rw [← Nat.cast_le (α := ℚ), hvalue]
    push_cast
    rw [le_mul_iff_one_le_left hpos', one_le_div (by positivity)]
  have hsize : decimalSize num den = if (10 : ℚ) ^ d ≤ valueOf num den then d + 1 else d := by
    unfold decimalSize
    simp only [← hd, hscaled]
  by_cases hbig : (10 : ℚ) ^ d ≤ valueOf num den
  · rw [hsize, if_pos hbig, add_sub_cancel_right]
    exact ⟨hbig, hupper⟩
  · rw [hsize, if_neg hbig]
    exact ⟨hlower, not_le.mp hbig⟩

/-! ### Grids -/

theorem ratio_pos (hm : 0 < m) (e : Int) : 0 < (ratio m e).1 ∧ 0 < (ratio m e).2 :=
  ⟨Nat.mul_pos hm (Nat.pow_pos Nat.two_pos), Nat.pow_pos Nat.two_pos⟩

theorem valueOf_ratio (m : Nat) (e : Int) : valueOf (ratio m e).1 (ratio m e).2 = m * 2 ^ e := by
  have hpow := pow_toNat_mul 2 Nat.two_pos e
  have hne : ((2 ^ (-e).toNat : Nat) : ℚ) ≠ 0 := by positivity
  simp only [ratio, Nat.pow_eq]
  rw [valueOf, div_eq_iff hne, mul_assoc]
  push_cast at hpow ⊢
  rw [hpow]

/-- The number of digits before the point of `m · 2^e`. -/
def sizeOf (m : Nat) (e : Int) : Int := decimalSize (ratio m e).1 (ratio m e).2

theorem sizeOf_bounds (hm : 0 < m) (e : Int) :
    (10 : ℚ) ^ (sizeOf m e - 1) ≤ m * 2 ^ e ∧ (m : ℚ) * 2 ^ e < 10 ^ sizeOf m e := by
  rw [← valueOf_ratio]
  exact decimalSize_bounds (ratio_pos hm e).1 (ratio_pos hm e).2

/-- The multiple of `10^g` nearest to `m · 2^e`. -/
def nearOn (m : Nat) (e g : Int) : Nat := nearestMultiple 10 (ratio m e).1 (ratio m e).2 g

theorem abs_nearOn_sub_le (hm : 0 < m) (e g : Int) : |(nearOn m e g : ℚ) * 10 ^ g - m * 2 ^ e| ≤ 10 ^ g / 2 := by
  have hnear := abs_nearestMultiple_sub_le (k := 10) (by decide) (ratio m e).1 (ratio_pos hm e).2 g
  rw [valueOf_ratio] at hnear
  exact_mod_cast hnear

theorem nearOn_eq_of_lt (hm : 0 < m) (h : |(c : ℚ) * 10 ^ g - m * 2 ^ e| < 10 ^ g / 2) : nearOn m e g = c := by
  refine nearestMultiple_eq_of_lt (k := 10) (by decide) (ratio_pos hm e).2 ?_
  rw [valueOf_ratio]
  exact_mod_cast h

/-- The nearer neighbour is taken if it reads back. -/
theorem onGrid?_of_nearOn (h : ofScientific false (nearOn m e g) g = finite false m e) : onGrid? m e g = some (nearOn m e g) := by
  have hread : (ofScientific false (nearOn m e g) g == finite false m e) = true := beq_iff_eq.mpr h
  rw [nearOn, nearestMultiple] at hread
  simp only [onGrid?, List.find?_cons, hread, nearOn, nearestMultiple]

theorem roundDiv_eq_or (num den : Nat) : roundDiv num den = num / den ∨ roundDiv num den = num / den + 1 := by
  unfold roundDiv
  dsimp only
  split
  · exact .inl rfl
  · exact .inr rfl

/-- Both neighbours of a number below `10^n` multiples of a grid are at most the last of them. -/
theorem le_of_onGrid? (hm : 0 < m) (h : onGrid? m e g = some c) (hbelow : (m : ℚ) * 2 ^ e < 10 ^ n * 10 ^ g) : c ≤ 10 ^ n := by
  obtain ⟨hpos, hscaled⟩ := overPower_eq (k := 10) (by decide) (ratio m e).1 (ratio_pos hm e).2 g
  rw [valueOf_ratio] at hscaled
  have hfloor : (overPower 10 (ratio m e).1 (ratio m e).2 g).1 / (overPower 10 (ratio m e).1 (ratio m e).2 g).2 < 10 ^ n := by
    rw [Nat.div_lt_iff_lt_mul hpos, ← Nat.cast_lt (α := ℚ), hscaled]
    push_cast
    have hpower : (0 : ℚ) < 10 ^ g := by positivity
    have hpos' : (0 : ℚ) < (overPower 10 (ratio m e).1 (ratio m e).2 g).2 := by exact_mod_cast hpos
    gcongr
    rwa [div_lt_iff₀ hpower]
  have hmem := List.mem_of_find?_eq_some h
  have hround := roundDiv_eq_or (overPower 10 (ratio m e).1 (ratio m e).2 g).1 (overPower 10 (ratio m e).1 (ratio m e).2 g).2
  simp only [List.mem_cons, List.not_mem_nil, or_false] at hmem
  omega

/-! ### The search -/

/-- What is found along a range is found at its first place. -/
theorem findSome?_range_eq_some {α : Type} {f : Nat → Option α} {a : α} (h : (List.range n).findSome? f = some a) :
    ∃ i < n, f i = some a ∧ ∀ j < i, f j = none := by
  obtain ⟨before, i, after, hsplit, hi, hbefore⟩ := List.findSome?_eq_some_iff.mp h
  have hlength := congrArg List.length hsplit
  rw [List.length_range, List.length_append, List.length_cons] at hlength
  have htake := congrArg (List.take before.length) hsplit
  rw [List.take_range, List.take_left, Nat.min_eq_left (by omega)] at htake
  have hplace := congrArg (·[before.length]?) hsplit
  rw [List.getElem?_range (by omega), List.getElem?_append_right le_rfl, Nat.sub_self] at hplace
  obtain rfl : before.length = i := Option.some.inj hplace
  exact ⟨_, by omega, hi, fun j hj => hbefore j (htake ▸ List.mem_range.mpr hj)⟩

/-- The first grid that holds a neighbour gives the digits. -/
theorem shortest_cases (m : Nat) (e : Int) :
    (∃ n : Nat, n < 17 ∧ ∃ c, onGrid? m e (sizeOf m e - 1 - n) = some c ∧ shortest m e = (c, sizeOf m e - 1 - n) ∧
      ∀ i < n, onGrid? m e (sizeOf m e - 1 - i) = none) ∨
    ∀ n : Nat, n < 17 → onGrid? m e (sizeOf m e - 1 - n) = none := by
  have hsearch : shortest m e = ((List.range 17).findSome? fun n : Nat =>
      (onGrid? m e (sizeOf m e - 1 - n)).map fun c => (c, sizeOf m e - 1 - n)).getD (exactDigits m e) := by
    rw [shortest, List.findSome?_map]
    rfl
  cases hfound : (List.range 17).findSome? fun n : Nat =>
      (onGrid? m e (sizeOf m e - 1 - n)).map fun c => (c, sizeOf m e - 1 - n) with
  | none =>
    refine .inr fun n hn => ?_
    simpa using List.findSome?_eq_none_iff.mp hfound n (List.mem_range.mpr hn)
  | some s =>
    obtain ⟨n, hn, hs, hbefore⟩ := findSome?_range_eq_some hfound
    obtain ⟨c, hc, rfl⟩ := Option.map_eq_some_iff.mp hs
    refine .inl ⟨n, hn, c, hc, by rw [hsearch, hfound, Option.getD_some], fun i hi => ?_⟩
    simpa using hbefore i hi

/-! ### Kept digits -/

/-- The number that the shortest digits of `m · 2^e` make. -/
def shownValue (m : Nat) (e : Int) : ℚ := (shortest m e).1 * 10 ^ (shortest m e).2

/-- Two multiples of `10^g` that are less than `10^g` apart are the same. -/
theorem multiples_eq_of_lt {c' : Nat} {g' : Int} (hg : g ≤ g') (h : |(c : ℚ) * 10 ^ g - c' * 10 ^ g'| < 10 ^ g) :
    (c : ℚ) * 10 ^ g = c' * 10 ^ g' := by
  obtain ⟨k, hk⟩ := Int.eq_ofNat_of_zero_le (sub_nonneg.mpr hg)
  obtain rfl : g' = g + k := by omega
  have hpos : (0 : ℚ) < 10 ^ g := by positivity
  rw [← mul_pow_mul_zpow] at h ⊢
  rw [← sub_mul, abs_mul, abs_of_pos hpos, mul_lt_iff_lt_one_left hpos, abs_lt] at h
  have hbelow : (c : ℚ) < (c' * 10 ^ k : Nat) + 1 := by linarith
  have habove : ((c' * 10 ^ k : Nat) : ℚ) < c + 1 := by linarith
  norm_cast at hbelow habove
  have hsame : c = c' * 10 ^ k := by omega
  rw [hsame]

/-- Is a unit of the mantissa less than the step of a grid, then a multiple that is read as the number is the only one that is;
so the search ends with it or with the same number on a coarser grid. -/
theorem shownValue_of_fine (hm : 0 < m) (hread : ofScientific false c g = finite false m e) (hfine : (2 : ℚ) ^ e < 10 ^ g)
    (hfirst : sizeOf m e - 17 ≤ g) (hlast : g ≤ sizeOf m e - 1) : shownValue m e = c * 10 ^ g := by
  have hdistance := abs_sub_le_of_ofScientific hm hread
  have hnear : nearOn m e g = c := by
    refine nearOn_eq_of_lt hm ?_
    rw [abs_sub_comm]
    linarith
  have hhit : onGrid? m e g = some c := by
    rw [← hnear]
    exact onGrid?_of_nearOn (hnear ▸ hread)
  obtain ⟨place, hplace⟩ : ∃ place : Nat, sizeOf m e - 1 - place = g := ⟨(sizeOf m e - 1 - g).toNat, by omega⟩
  rcases shortest_cases m e with ⟨n, hn, c', hc', hshortest, hbefore⟩ | hnone
  · have hcoarser : n ≤ place := by
      by_contra hlt
      have hmiss := hbefore place (by omega)
      rw [hplace, hhit] at hmiss
      cases hmiss
    have hdistance' := abs_sub_le_of_ofScientific hm (ofScientific_of_onGrid? hc')
    rw [shownValue, hshortest]
    refine (multiples_eq_of_lt (by omega) ?_).symm
    rw [abs_le] at hdistance hdistance'
    rw [abs_lt]
    constructor <;> linarith
  · have hmiss := hnone place (by omega)
    rw [hplace, hhit] at hmiss
    cases hmiss

/-- A grid may be coarser than the number is large. -/
theorem shownValue_eq (hm : 0 < m) (hnormal : 2 ^ 52 ≤ m) (hread : ofScientific false c g = finite false m e)
    (hfine : (2 : ℚ) ^ e < 10 ^ g) (hfirst : sizeOf m e - 17 ≤ g) : shownValue m e = c * 10 ^ g := by
  rcases le_or_gt g (sizeOf m e - 1) with hlast | hcoarse
  · exact shownValue_of_fine hm hread hfine hfirst hlast
  · obtain ⟨k, hk⟩ := Int.eq_ofNat_of_zero_le (sub_nonneg.mpr hcoarse.le)
    obtain rfl : g = sizeOf m e - 1 + k := by omega
    have hfine' : (2 : ℚ) ^ e < 10 ^ (sizeOf m e - 1) := by
      have hupper := (sizeOf_bounds hm e).2
      have hnormal' : (2 : ℚ) ^ 52 ≤ m := by exact_mod_cast hnormal
      have hpos : (0 : ℚ) < 2 ^ e := by positivity
      rw [← sub_add_cancel (sizeOf m e) 1, zpow_add_one₀ (by norm_num)] at hupper
      nlinarith
    rw [← ofScientific_mul_pow] at hread
    rw [shownValue_of_fine hm hread hfine' (by omega) le_rfl, mul_pow_mul_zpow]

/-- The bounds of ten lie between those of two. -/
theorem least_full_le : (2 : ℚ) ^ 52 * 2 ^ (-1074 : Int) ≤ 10 ^ (-307 : Int) := by
  have hnat : 2 ^ 52 * 10 ^ 307 ≤ 2 ^ 1074 := by decide +kernel
  have hcast : (2 : ℚ) ^ 52 * 10 ^ 307 ≤ 2 ^ 1074 := by exact_mod_cast hnat
  rw [zpow_neg, zpow_neg, ← div_eq_mul_inv, ← one_div, div_le_div_iff₀ (by positivity) (by positivity), one_mul]
  exact_mod_cast hcast

theorem le_most_full : (10 : ℚ) ^ (308 : Int) ≤ (2 ^ 53 - 1) * 2 ^ (971 : Int) := by
  have hnat : 10 ^ 308 + 2 ^ 971 ≤ 2 ^ 53 * 2 ^ 971 := by decide +kernel
  have hcast : (10 : ℚ) ^ 308 + 2 ^ 971 ≤ 2 ^ 53 * 2 ^ 971 := by exact_mod_cast hnat
  rw [zpow_ofNat, zpow_ofNat, sub_mul, one_mul]
  exact le_sub_iff_add_le.mpr hcast

/-- A decimal between these bounds is read as a number with a full mantissa. -/
theorem exists_full (hc : 0 < c) (hlow : -307 ≤ Decimal.adjusted c x) (hhigh : Decimal.adjusted c x ≤ 307) (negative : Bool) :
    ∃ m e, 2 ^ 52 ≤ m ∧ ofScientific negative c x = finite negative m e := by
  obtain ⟨num, den, hnum, hden, hvalue, hnearest⟩ := exists_nearest (x := x) hc (by omega) (by omega) negative
  obtain ⟨hlower, hupper⟩ := adjusted_bounds hc x
  rw [← hvalue] at hlower hupper
  have hleast : (2 : ℚ) ^ 52 * 2 ^ (-1074 : Int) ≤ valueOf num den :=
    least_full_le.trans ((zpow_le_zpow_right₀ (by norm_num) hlow).trans hlower)
  have hmost : valueOf num den < (2 ^ 53 - 1) * 2 ^ (971 : Int) :=
    hupper.trans_le ((zpow_le_zpow_right₀ (by norm_num) (by omega)).trans le_most_full)
  rw [hnearest]
  exact nearest_full hnum hden hleast hmost negative

/-- Fifteen digits are kept: a unit of the mantissa is less than one of the last of them. -/
theorem shownValue_of_lt (hc : 0 < c) (hdigits : c < 10 ^ 15) (hlow : -307 ≤ Decimal.adjusted c x)
    (hhigh : Decimal.adjusted c x ≤ 307) (negative : Bool) :
    ∃ m e, 0 < m ∧ ofScientific negative c x = finite negative m e ∧ shownValue m e = c * 10 ^ x := by
  obtain ⟨m, e, hnormal, hread⟩ := exists_full hc hlow hhigh false
  have hm : 0 < m := by omega
  have hdistance := abs_le.mp (abs_sub_le_of_ofScientific hm hread)
  have hunit : (0 : ℚ) < 2 ^ e := by positivity
  have hstep : (0 : ℚ) < 10 ^ x := by positivity
  have hmantissa : (2 : ℚ) ^ 52 * 2 ^ e ≤ m * 2 ^ e := by
    gcongr
    exact_mod_cast hnormal
  have hcoefficient : (c : ℚ) * 10 ^ x ≤ 10 ^ 15 * 10 ^ x := by
    gcongr
    exact_mod_cast hdigits.le
  have hfine : (2 : ℚ) ^ e < 10 ^ x := by linarith
  have hfirst : sizeOf m e - 17 ≤ x := by
    have hpower : (10 : ℚ) ^ (sizeOf m e - 1) < 10 ^ (x + 16) := by
      have hten : (10 : ℚ) ^ (x + 16) = 10 ^ 16 * 10 ^ x := by
        rw [zpow_add₀ (by norm_num), mul_comm]
        norm_cast
      have hlower := (sizeOf_bounds hm e).1
      rw [hten]
      linarith
    have hless := (zpow_lt_zpow_iff_right₀ (by norm_num)).mp hpower
    omega
  refine ⟨m, e, hm, ?_, shownValue_eq hm hnormal hread hfine hfirst⟩
  rw [ofScientific_withSign, hread]
  rfl

/-! ### Digits that are too many -/

/-- A coefficient of at most `n` digits but for the zeros at its end. -/
def HasDigits (n c : Nat) : Prop := ∃ c' k, c = c' * 10 ^ k ∧ c' < 10 ^ n

theorem hasDigits_of_le (hn : 0 < n) (h : c ≤ 10 ^ n) : HasDigits n c := by
  rcases h.lt_or_eq with hlt | heq
  · exact ⟨c, 0, by rw [Nat.pow_zero, Nat.mul_one], hlt⟩
  · exact ⟨1, n, by rw [heq, Nat.one_mul], Nat.one_lt_pow hn.ne' (by decide)⟩

theorem least_le : (10 : ℚ) ^ (-324 : Int) ≤ 2 ^ (-1074 : Int) := by
  have hnat : 2 ^ 1074 ≤ 10 ^ 324 := by decide +kernel
  have hcast : (2 : ℚ) ^ 1074 ≤ 10 ^ 324 := by exact_mod_cast hnat
  rw [zpow_neg, zpow_neg]
  exact inv_anti₀ (by positivity) (by exact_mod_cast hcast)

theorem most_le : (2 : ℚ) ^ 53 * 2 ^ (971 : Int) ≤ 10 ^ (309 : Int) := by
  have hnat : 2 ^ 53 * 2 ^ 971 ≤ 10 ^ 309 := by decide +kernel
  have hcast : (2 : ℚ) ^ 53 * 2 ^ 971 ≤ 10 ^ 309 := by exact_mod_cast hnat
  rw [zpow_ofNat, zpow_ofNat]
  exact hcast

/-- The sizes of canonical numbers. -/
theorem sizeOf_mem (hm : 0 < m) (h : IsCanonical (finite negative m e)) : -323 ≤ sizeOf m e ∧ sizeOf m e ≤ 309 := by
  obtain ⟨hlt, hleast, hmost, -⟩ := h
  obtain ⟨hlower, hupper⟩ := sizeOf_bounds hm e
  constructor
  · have hpower : (10 : ℚ) ^ (-324 : Int) < 10 ^ sizeOf m e := by
      calc (10 : ℚ) ^ (-324 : Int) ≤ 2 ^ (-1074 : Int) := least_le
        _ ≤ 2 ^ e := zpow_le_zpow_right₀ (by norm_num) hleast
        _ ≤ m * 2 ^ e := le_mul_of_one_le_left (by positivity) (by exact_mod_cast hm)
        _ < 10 ^ sizeOf m e := hupper
    have hless := (zpow_lt_zpow_iff_right₀ (by norm_num)).mp hpower
    omega
  · have hpower : (10 : ℚ) ^ (sizeOf m e - 1) < 10 ^ (309 : Int) := by
      calc (10 : ℚ) ^ (sizeOf m e - 1) ≤ m * 2 ^ e := hlower
        _ < 2 ^ 53 * 2 ^ e := by
            gcongr
            exact_mod_cast hlt
        _ ≤ 2 ^ 53 * 2 ^ (971 : Int) := by
            gcongr
            norm_num
        _ ≤ 10 ^ (309 : Int) := most_le
    have hless := (zpow_lt_zpow_iff_right₀ (by norm_num)).mp hpower
    omega

/-- On the last grid the nearer neighbour is closer than half a unit, and than a quarter where that is needed. -/
theorem onGrid?_last (hm : 0 < m) (h : IsCanonical (finite negative m e)) :
    onGrid? m e (sizeOf m e - 17) = some (nearOn m e (sizeOf m e - 17)) := by
  obtain ⟨hleast, hmost⟩ := sizeOf_mem hm h
  obtain ⟨hlower, hupper⟩ := sizeOf_bounds hm e
  have hdistance := abs_le.mp (abs_nearOn_sub_le hm e (sizeOf m e - 17))
  have hgrid (k : Nat) (i : Int) (hi : sizeOf m e - 17 + k = i) : (10 : ℚ) ^ i = 10 ^ k * 10 ^ (sizeOf m e - 17) := by
    rw [← hi, zpow_add₀ (by norm_num), zpow_natCast, mul_comm]
  rw [hgrid 16 _ (by omega)] at hlower
  rw [hgrid 17 _ (by omega)] at hupper
  generalize hg : sizeOf m e - 17 = g at hdistance hlower hupper ⊢
  have hstep : (0 : ℚ) < 10 ^ g := by positivity
  have hmantissa : (m : ℚ) * 2 ^ e ≤ 2 ^ 53 * 2 ^ e := by
    gcongr
    exact_mod_cast h.1.le
  have hnear : 10 ^ 16 ≤ nearOn m e g ∧ nearOn m e g < 10 ^ 18 := by
    have habove : (10 : ℚ) ^ 16 < nearOn m e g + 1 := by nlinarith
    have hbelow : (nearOn m e g : ℚ) < 10 ^ 18 := by nlinarith
    norm_cast at habove hbelow
    omega
  have hpos : 0 < nearOn m e g := by omega
  have hlow := le_adjusted hnear.1 g
  have hhigh := adjusted_lt (by decide) hnear.2 g
  obtain ⟨num, den, hnum, hden, hvalue, hnearest⟩ := exists_nearest hpos (x := g) (by omega) (by omega) false
  refine onGrid?_of_nearOn (hnearest ▸ nearest_of_close hm hden h ?_ ?_)
  · rw [hvalue, abs_lt]
    constructor <;> linarith
  · rintro rfl
    rw [hvalue]
    push_cast at hlower hdistance ⊢
    linarith

/-- The search ends on a grid. -/
theorem exists_shortest_eq (hm : 0 < m) (h : IsCanonical (finite negative m e)) :
    ∃ n : Nat, n < 17 ∧ ∃ c, onGrid? m e (sizeOf m e - 1 - n) = some c ∧ shortest m e = (c, sizeOf m e - 1 - n) := by
  rcases shortest_cases m e with ⟨n, hn, c, hc, hshortest, -⟩ | hnone
  · exact ⟨n, hn, c, hc, hshortest⟩
  · have hmiss := hnone 16 (by decide)
    rw [show sizeOf m e - 1 - (16 : Nat) = sizeOf m e - 17 by omega, onGrid?_last hm h] at hmiss
    cases hmiss

theorem le_shortest (hm : 0 < m) (h : IsCanonical (finite negative m e)) : -340 ≤ (shortest m e).2 := by
  obtain ⟨n, hn, c, -, hshortest⟩ := exists_shortest_eq hm h
  have hleast := (sizeOf_mem hm h).1
  rw [hshortest]
  dsimp only
  omega

/-- Seventeen digits are enough for any number. -/
theorem hasDigits_shortest (hm : 0 < m) (h : IsCanonical (finite negative m e)) : HasDigits 17 (shortest m e).1 := by
  obtain ⟨n, hn, c, hc, hshortest⟩ := exists_shortest_eq hm h
  have hbelow : (m : ℚ) * 2 ^ e < 10 ^ (n + 1) * 10 ^ (sizeOf m e - 1 - n) := by
    have hsplit : sizeOf m e = (n + 1 : Nat) + (sizeOf m e - 1 - n) := by omega
    rw [← zpow_natCast, ← zpow_add₀ (by norm_num), ← hsplit]
    exact (sizeOf_bounds hm e).2
  have hle := le_of_onGrid? hm hc hbelow
  rw [hshortest]
  exact hasDigits_of_le (by decide) (hle.trans (Nat.pow_le_pow_right (by decide) (by omega)))

theorem eq_mul_pow_of_eq {c' : Nat} (h : (c : ℚ) * 10 ^ x = c' * 10 ^ (x + k)) : c = c' * 10 ^ k := by
  have hne : (10 : ℚ) ^ x ≠ 0 := by positivity
  rw [← mul_pow_mul_zpow] at h
  exact_mod_cast mul_right_cancel₀ hne h

/-- The number of digits is that of the value. -/
theorem hasDigits_congr {c' : Nat} {x' : Int} (h : (c : ℚ) * 10 ^ x = c' * 10 ^ x') (hdigits : HasDigits n c') :
    HasDigits n c := by
  obtain ⟨d, k, rfl, hd⟩ := hdigits
  have hvalue : (c : ℚ) * 10 ^ x = d * 10 ^ (x' + k) := h.trans (mul_pow_mul_zpow d k x')
  rcases le_total x (x' + k) with hle | hle
  · obtain ⟨j, hj⟩ := Int.eq_ofNat_of_zero_le (sub_nonneg.mpr hle)
    rw [show x' + k = x + j by omega] at hvalue
    exact ⟨d, j, eq_mul_pow_of_eq hvalue, hd⟩
  · obtain ⟨j, hj⟩ := Int.eq_ofNat_of_zero_le (sub_nonneg.mpr hle)
    rw [show x = x' + k + j by omega] at hvalue
    have hsmaller : c ≤ d := by
      rw [eq_mul_pow_of_eq hvalue.symm]
      exact Nat.le_mul_of_pos_right c (Nat.pow_pos (by decide))
    exact ⟨c, 0, by rw [Nat.pow_zero, Nat.mul_one], by omega⟩

end Binary64
end SpannerSchema

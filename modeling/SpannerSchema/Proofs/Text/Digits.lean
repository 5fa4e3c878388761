import Mathlib.Algebra.Group.Nat.Defs
import SpannerSchema.Text.Digit

/-! Numerals of ASCII digits. A numeral that starts with no zero is that of its number; zeros at its end multiply the
    number by powers of ten, and zeros before it change nothing. -/

namespace SpannerSchema
namespace Text

variable {c : Char} {cs ds rest : List Char} {n : Nat}

/-- The number of a numeral. -/
def numberOf (cs : List Char) : Nat := Nat.ofDigitChars 10 cs 0

theorem ofDigits_map (cs : List Char) : ofDigits (cs.map fun d => d.toNat - 48) = numberOf cs := by
  have hstep (cs : List Char) (n : Nat) :
      (cs.map fun d => d.toNat - 48).foldl (fun n d => n * 10 + d) n = Nat.ofDigitChars 10 cs n := by
    induction cs generalizing n with
    | nil => rfl
    | cons c cs ih =>
      rw [List.map_cons, List.foldl_cons, ih, Nat.ofDigitChars_cons, Nat.mul_comm]
      rfl
  exact hstep cs 0

theorem numberOf_append (cs ds : List Char) : numberOf (cs ++ ds) = numberOf cs * 10 ^ ds.length + numberOf ds := by
  unfold numberOf
  rw [Nat.ofDigitChars_append, Nat.ofDigitChars_eq_ofDigitChars_zero, Nat.mul_comm]

theorem numberOf_replicate_zero (n : Nat) : numberOf (List.replicate n '0') = 0 := by
  simp [numberOf, Nat.ofDigitChars_replicate_zero]

@[simp] theorem numberOf_zero_cons (cs : List Char) : numberOf ('0' :: cs) = numberOf cs := by
  simp [numberOf, Nat.ofDigitChars_cons]

@[simp] theorem numberOf_digitChars (n : Nat) : numberOf (digitChars n) = n := Nat.ofDigitChars_ten_toDigits

/-! ### Digits -/

/-- Are all characters ASCII digits? -/
def Digits (cs : List Char) : Prop := ∀ c ∈ cs, c.isDigit = true

theorem toNat_of_isDigit (h : c.isDigit = true) : 48 ≤ c.toNat ∧ c.toNat ≤ 57 := by
  simp only [Char.isDigit, Bool.and_eq_true, decide_eq_true_eq] at h
  exact h

theorem digit?_of_isDigit (h : c.isDigit = true) : digit? c = some (c.toNat - 48) := by
  have hbounds := toNat_of_isDigit h
  rw [digit?, if_pos (by omega), if_pos h]

theorem Digits.append (h : Digits cs) (h' : Digits ds) : Digits (cs ++ ds) := by
  intro c hc
  rcases List.mem_append.mp hc with hc | hc
  · exact h c hc
  · exact h' c hc

theorem Digits.of_append_left (h : Digits (cs ++ ds)) : Digits cs := fun c hc => h c (List.mem_append_left ds hc)

theorem Digits.of_append_right (h : Digits (cs ++ ds)) : Digits ds := fun c hc => h c (List.mem_append_right cs hc)

theorem digits_replicate_zero (n : Nat) : Digits (List.replicate n '0') := by
  intro c hc
  rw [List.eq_of_mem_replicate hc]
  rfl

theorem digits_digitChars (n : Nat) : Digits (digitChars n) := fun _ =>
  Nat.isDigit_of_mem_toDigits (by decide) (by decide)

theorem digitChars_ne_nil (n : Nat) : digitChars n ≠ [] := Nat.toDigits_ne_nil

/-- Does the text go on with no digit? -/
def NoDigit (cs : List Char) : Prop := ∀ c, cs.head? = some c → c.isDigit = false

theorem takeWhile_digits (h : Digits cs) (hrest : NoDigit rest) : (cs ++ rest).takeWhile Char.isDigit = cs := by
  have htail : rest.takeWhile Char.isDigit = [] := by
    cases rest with
    | nil => rfl
    | cons c rest => simp [hrest c rfl]
  rw [List.takeWhile_append_of_pos h, htail, List.append_nil]

/-! ### Leading digits -/

/-- A numeral that starts with a digit other than zero. -/
structure Leads (cs : List Char) : Prop where
  digits : Digits cs
  head : ∃ c, cs.head? = some c ∧ c ≠ '0'

theorem leads_digitChars (h : 0 < n) : Leads (digitChars n) := by
  refine ⟨digits_digitChars n, ?_⟩
  induction n using Nat.strongRecOn with
  | ind n ih =>
    rcases Nat.lt_or_ge n 10 with hn | hn
    · refine ⟨n.digitChar, ?_, fun hzero => Nat.ne_of_gt h (Nat.digitChar_eq_zero.mp hzero)⟩
      rw [digitChars, Nat.toDigits_of_lt_base hn]
      rfl
    · obtain ⟨c, hc, hzero⟩ := ih (n / 10) (by omega) (by omega)
      refine ⟨c, ?_, hzero⟩
      have hdigits : digitChars n = digitChars (n / 10) ++ [(n % 10).digitChar] := Nat.toDigits_of_base_le (by decide) hn
      rw [hdigits, List.head?_append, hc]
      rfl

theorem Leads.ne_nil (h : Leads cs) : cs ≠ [] := by
  rintro rfl
  obtain ⟨c, hc, -⟩ := h.head
  cases hc

theorem Leads.append (h : Leads cs) (hds : Digits ds) : Leads (cs ++ ds) := by
  obtain ⟨c, hc, hzero⟩ := h.head
  exact ⟨h.digits.append hds, c, by rw [List.head?_append, hc]; rfl, hzero⟩

/-- A first part of a numeral, unless it is empty, starts with the same digit. -/
theorem Leads.take (h : Leads (cs ++ ds)) (hcs : cs ≠ []) : Leads cs := by
  obtain ⟨c, hc, hzero⟩ := h.head
  refine ⟨h.digits.of_append_left, c, ?_, hzero⟩
  cases cs with
  | nil => exact absurd rfl hcs
  | cons d cs => exact hc

theorem digitChars_mul_pow (h : 0 < n) (k : Nat) : digitChars (n * 10 ^ k) = digitChars n ++ List.replicate k '0' := by
  induction k with
  | zero => simp
  | succ k ih =>
    have hpos : 0 < n * 10 ^ k := Nat.mul_pos h (Nat.pow_pos (by decide))
    have hnext : n * 10 ^ (k + 1) = 10 * (n * 10 ^ k) + 0 := by
      rw [Nat.pow_succ, ← Nat.mul_assoc]
      omega
    rw [hnext, digitChars, ← Nat.toDigits_append_toDigits (by decide) hpos (by decide)]
    change digitChars (n * 10 ^ k) ++ ['0'] = _
    rw [ih, List.append_assoc, List.replicate_succ']

/-- The numeral without the zeros at its end. -/
def stripped (cs : List Char) : List Char := (cs.reverse.dropWhile (· == '0')).reverse

theorem exists_eq_stripped_append (cs : List Char) : ∃ k, cs = stripped cs ++ List.replicate k '0' := by
  have hzeros : ∀ c ∈ cs.reverse.takeWhile (· == '0'), c = '0' := by
    intro c hc
    simpa using List.all_eq_true.mp List.all_takeWhile c hc
  refine ⟨(cs.reverse.takeWhile (· == '0')).length, ?_⟩
  have hsplit := congrArg List.reverse (List.takeWhile_append_dropWhile (p := (· == '0')) (l := cs.reverse))
  rw [List.reverse_append, List.reverse_reverse, List.eq_replicate_of_mem hzeros, List.reverse_replicate]
    at hsplit
  exact hsplit.symm

theorem leads_stripped (h : 0 < n) : Leads (stripped (digitChars n)) := by
  obtain ⟨k, hk⟩ := exists_eq_stripped_append (digitChars n)
  refine Leads.take (hk ▸ leads_digitChars h) fun hnil => ?_
  have hzero := congrArg numberOf hk
  rw [hnil, List.nil_append, numberOf_digitChars, numberOf_replicate_zero] at hzero
  exact Nat.ne_of_gt h hzero

/-- A point with digits after it, or nothing. -/
def pointed (fraction : List Char) : List Char := if fraction.isEmpty then [] else '.' :: fraction

theorem mem_pointed {fraction : List Char} (h : c ∈ pointed fraction) : c = '.' ∨ c ∈ fraction := by
  unfold pointed at h
  split at h
  · cases h
  · exact List.mem_cons.mp h

theorem ne_of_isDigit {d : Char} (hc : c.isDigit = true) (hd : d.isDigit = false) : c ≠ d := by
  rintro rfl
  rw [hc] at hd
  cases hd

end Text
end SpannerSchema

import SpannerSchema.Json.Reader
import SpannerSchema.Json.Writer

/-! Strings of JSON, read back from what is written for them: each character is read as itself, whatever its form. No written
    character is a carriage return. -/

namespace SpannerSchema
namespace Json
open Text

variable {c : Char} {cs opening rest : List Char}

/-- The characters that are written as a backslash and another character. -/
def marked : List Char := ['"', '\\', '\n', '\r', '\t', '\x08', '\x0c']

theorem escapeChar_of_not_marked (h : c ∉ marked) :
    escapeChar c = if c.toNat < 0x20 then '\\' :: 'u' :: hex 4 c.toNat else [c] := by
  simp only [marked, List.mem_cons, List.not_mem_nil, or_false, not_or] at h
  obtain ⟨h₁, h₂, h₃, h₄, h₅, h₆, h₇⟩ := h
  simp [escapeChar, h₁, h₂, h₃, h₄, h₅, h₆, h₇]

/-- A control character in four hexadecimal digits. -/
theorem hexFour?_hex : ∀ n < 0x20, hex 4 n = ['0', '0', Nat.digitChar (n / 16), Nat.digitChar (n % 16)] ∧
    hexFour? '0' '0' (Nat.digitChar (n / 16)) (Nat.digitChar (n % 16)) = some n := by
  decide

theorem stringUnits_plain (hmarked : c ∉ marked) (hcontrol : ¬c.toNat < 0x20) (opening rest : List Char) :
    stringUnits opening (c :: rest) = consUnit c.toNat (stringUnits opening rest) := by
  have hquote : c ≠ '"' := by
    rintro rfl
    exact hmarked (by decide)
  have hback : c ≠ '\\' := by
    rintro rfl
    exact hmarked (by decide)
  rw [stringUnits.eq_def]
  split
  case h_7 =>
    next heq =>
      cases heq
      rw [if_neg hcontrol]
  all_goals simp_all

/-- A character is read back before a text that goes on. -/
theorem stringUnits_escapeChar (hrest : rest ≠ []) (c : Char) :
    stringUnits opening (escapeChar c ++ rest) = consUnit c.toNat (stringUnits opening rest) := by
  by_cases hmarked : c ∈ marked
  · simp only [marked, List.mem_cons, List.not_mem_nil, or_false] at hmarked
    rcases hmarked with rfl | rfl | rfl | rfl | rfl | rfl | rfl <;> rfl
  · rw [escapeChar_of_not_marked hmarked]
    split
    · next hcontrol =>
      have hempty : rest.isEmpty = false := by simpa using hrest
      obtain ⟨hhex, hfour⟩ := hexFour?_hex c.toNat hcontrol
      rw [hhex]
      simp only [List.cons_append, List.nil_append]
      rw [stringUnits]
      simp only [hempty, Bool.false_eq_true, if_false, hfour]
    · next hcontrol => exact stringUnits_plain hmarked hcontrol opening rest

theorem stringUnits_flatMap (opening cs rest : List Char) :
    stringUnits opening (cs.flatMap escapeChar ++ '"' :: rest) = .ok (cs.map Char.toNat, rest) := by
  induction cs with
  | nil => rfl
  | cons c cs ih =>
    have hne : cs.flatMap escapeChar ++ '"' :: rest ≠ [] := by simp
    rw [List.flatMap_cons, List.append_assoc, stringUnits_escapeChar hne, ih]
    rfl

/-- No character is half of a pair. -/
theorem not_half (c : Char) : ¬(0xD800 ≤ c.toNat ∧ c.toNat < 0xE000) := by
  rintro ⟨hlow, hhigh⟩
  rcases c.valid with h | ⟨h, -⟩
  · have hbelow : c.toNat < 0xD800 := h
    omega
  · have habove : 0xDFFF < c.toNat := h
    omega

theorem joinPairs_map (cs : List Char) : joinPairs (cs.map Char.toNat) = cs := by
  have hhalf (c : Char) : (decide (0xD800 ≤ c.toNat) && decide (c.toNat < 0xE000)) = false := by
    simpa using not_half c
  have hpair (c d : Char) : (decide (0xD800 ≤ c.toNat) && decide (c.toNat < 0xDC00) && decide (0xDC00 ≤ d.toNat) &&
      decide (d.toNat < 0xE000)) = false := by
    have hc := not_half c
    simp
    omega
  induction cs with
  | nil => rfl
  | cons c cs ih =>
    cases cs with
    | nil => simp [joinPairs, hhalf, Char.ofNat_toNat]
    | cons d cs =>
      simp only [List.map_cons] at ih ⊢
      rw [joinPairs]
      simp only [hpair, hhalf, Bool.false_eq_true, if_false, ih, Char.ofNat_toNat]

/-- A string is read back from its quotes on. -/
theorem readString_flatMap (cs rest : List Char) :
    readString (cs.flatMap escapeChar ++ '"' :: rest) = .ok (String.ofList cs, rest) := by
  rw [readString, stringUnits_flatMap]
  simp only [joinPairs_map]

theorem return_not_mem_stringChars (cs : List Char) : '\r' ∉ stringChars cs := by
  have hchar (c : Char) : '\r' ∉ escapeChar c := by
    by_cases hmarked : c ∈ marked
    · simp only [marked, List.mem_cons, List.not_mem_nil, or_false] at hmarked
      rcases hmarked with rfl | rfl | rfl | rfl | rfl | rfl | rfl <;> decide
    · rw [escapeChar_of_not_marked hmarked]
      split
      · next hcontrol =>
        have hall : ∀ n < 0x20, '\r' ∉ '\\' :: 'u' :: hex 4 n := by decide
        exact hall _ hcontrol
      · rw [List.mem_singleton]
        rintro rfl
        exact hmarked (by decide)
  simp only [stringChars, List.mem_cons, List.mem_append, List.mem_flatMap, List.not_mem_nil, or_false, not_or]
  exact ⟨by decide, fun ⟨c, _, hc⟩ => hchar c hc, by decide⟩

end Json
end SpannerSchema

import SpannerSchema.Text.Case

/-! The two cases of the letters of ASCII. What is the same for both cases of each letter does not change when a text is
    put in small letters, because no other character has a second case in ASCII. The lower-case form of a text is such a
    thing, also at the end of a word, where it looks at the letters around. -/

namespace SpannerSchema
namespace Text

variable {cs ds : List Char}

/-! ### One letter -/

/-- A character is a capital of ASCII or its own small form. -/
theorem toLower_eq_self_or (c : Char) : c.toLower = c ∨ ∃ n < 26, c = Char.ofNat (n + 65) := by
  by_cases hc : 65 ≤ c.toNat ∧ c.toNat ≤ 90
  · exact Or.inr ⟨c.toNat - 65, by omega, by rw [Nat.sub_add_cancel hc.1, Char.ofNat_toNat]⟩
  · exact Or.inl (dif_neg fun h => hc ⟨h.1, h.2⟩)

theorem toUpper_eq_self_or (c : Char) : c.toUpper = c ∨ ∃ n < 26, c = Char.ofNat (n + 97) := by
  by_cases hc : 97 ≤ c.toNat ∧ c.toNat ≤ 122
  · exact Or.inr ⟨c.toNat - 97, by omega, by rw [Nat.sub_add_cancel hc.1, Char.ofNat_toNat]⟩
  · exact Or.inl (dif_neg fun h => hc ⟨h.1, h.2⟩)

theorem toLower_toUpper (c : Char) : c.toUpper.toLower = c.toLower := by
  have hletters : ∀ n < 26, (Char.ofNat (n + 97)).toUpper.toLower = (Char.ofNat (n + 97)).toLower := by decide +kernel
  rcases toUpper_eq_self_or c with hself | ⟨n, hn, rfl⟩
  · rw [hself]
  · exact hletters n hn

/-- What is the same for both cases of each letter is the same for every character and its small form. -/
theorem apply_toLower {α : Type} {f : Char → α}
    (hletters : ∀ n < 26, f (Char.ofNat (n + 65)).toLower = f (Char.ofNat (n + 65))) (c : Char) : f c.toLower = f c := by
  rcases toLower_eq_self_or c with hself | ⟨n, hn, rfl⟩
  · rw [hself]
  · exact hletters n hn

theorem beq_toLower (mark : Char)
    (hletters : ∀ n < 26, ((Char.ofNat (n + 65)).toLower == mark) = (Char.ofNat (n + 65) == mark)) (c : Char) :
    (c.toLower == mark) = (c == mark) := apply_toLower (f := (· == mark)) hletters c

/-! ### The lower-case form -/

theorem lowerChar_toLower (c : Char) : lowerChar c.toLower = lowerChar c := apply_toLower (by decide +kernel) c

theorem meetsCased_map_toLower (cs : List Char) : meetsCased (cs.map Char.toLower) = meetsCased cs := by
  have hignorable : (fun c : Char => inRanges c.toNat caseIgnorableBounds) ∘ Char.toLower
      = fun c => inRanges c.toNat caseIgnorableBounds := by
    funext c
    exact apply_toLower (f := fun c => inRanges c.toNat caseIgnorableBounds) (by decide +kernel) c
  unfold meetsCased
  rw [List.dropWhile_map, hignorable]
  cases cs.dropWhile fun c => inRanges c.toNat caseIgnorableBounds with
  | nil => rfl
  | cons c cs => exact apply_toLower (f := fun c => inRanges c.toNat casedBounds) (by decide +kernel) c

theorem lowerAfter_map_toLower (before cs : List Char) :
    lowerAfter (before.map Char.toLower) (cs.map Char.toLower) = lowerAfter before cs := by
  induction cs generalizing before with
  | nil => rfl
  | cons c cs ih =>
    have hrest := ih (c :: before)
    rw [List.map_cons] at hrest
    rw [List.map_cons, lowerAfter, lowerAfter, hrest, beq_toLower _ (by decide) c, lowerChar_toLower,
      meetsCased_map_toLower, meetsCased_map_toLower]

/-- The lower-case form of a text does not depend on the case of its ASCII letters. -/
theorem lower_map_toLower (cs : List Char) : lower (cs.map Char.toLower) = lower cs := lowerAfter_map_toLower [] cs

/-- Without a capital sigma each letter of a text has its lower-case form wherever it stands. -/
theorem lowerAfter_of_not_mem (h : 'Σ' ∉ cs) (before : List Char) : lowerAfter before cs = cs.flatMap lowerChar := by
  induction cs generalizing before with
  | nil => rfl
  | cons c cs ih =>
    rw [List.mem_cons, not_or] at h
    have hc : (c == 'Σ') = false := by simpa using Ne.symm h.1
    rw [lowerAfter, ih h.2, hc, List.flatMap_cons]
    rfl

theorem lower_append (hcs : 'Σ' ∉ cs) (hds : 'Σ' ∉ ds) : lower (cs ++ ds) = lower cs ++ lower ds := by
  have happend : 'Σ' ∉ cs ++ ds := by
    rw [List.mem_append, not_or]
    exact ⟨hcs, hds⟩
  rw [lower, lower, lower, lowerAfter_of_not_mem happend, lowerAfter_of_not_mem hcs, lowerAfter_of_not_mem hds,
    List.flatMap_append]

/-- A capital sigma leaves one of the small ones. -/
theorem sigma_mem_lowerAfter (h : 'Σ' ∈ cs) (before : List Char) :
    'ς' ∈ lowerAfter before cs ∨ 'σ' ∈ lowerAfter before cs := by
  induction cs generalizing before with
  | nil => cases h
  | cons c cs ih =>
    rw [lowerAfter, List.mem_append, List.mem_append]
    rcases List.mem_cons.mp h with rfl | h
    · cases meetsCased before && !meetsCased cs <;> simp
    · exact (ih h (c :: before)).imp Or.inr Or.inr

end Text
end SpannerSchema

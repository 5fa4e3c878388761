import SpannerSchema.Text.Blank
import SpannerSchema.Text.Digit

/-! Blanks at the ends of a text. They can be listed, so what is true of each one is true of all; and taking them off leaves
    what stands between them. -/

namespace SpannerSchema
namespace Text

variable {blank : Char → Bool} {before body after : List Char} {c : Char}

/-! ### Ranges -/

/-- The members of ranges given by their bounds. -/
def members : List Nat → List Nat
  | first :: stop :: rest => List.range' first (stop - first) ++ members rest
  | _ => []

theorem mem_members_of_inRanges {n : Nat} {bounds : List Nat} (h : inRanges n bounds = true) : n ∈ members bounds := by
  induction bounds using members.induct with
  | case1 first stop rest ih =>
    simp only [inRanges, Bool.and_eq_true, Bool.or_eq_true, decide_eq_true_eq] at h
    obtain ⟨hfirst, hstop | hrest⟩ := h
    · exact List.mem_append_left _ (List.mem_range'_1.mpr ⟨hfirst, by omega⟩)
    · exact List.mem_append_right _ (ih hrest)
  | case2 bounds hne =>
    unfold inRanges at h
    split at h
    · next first stop rest => exact absurd rfl (hne first stop rest)
    · cases h

/-- No blank is a digit of any script. -/
theorem digit?_of_isBlank (h : isBlank c = true) : digit? c = none := by
  have hblanks : ∀ n ∈ members blankBounds, digit? (Char.ofNat n) = none := by decide +kernel
  have hc := hblanks c.toNat (mem_members_of_inRanges h)
  rwa [Char.ofNat_toNat] at hc

/-! ### Ends -/

theorem strip_append (hbefore : ∀ c ∈ before, blank c = true) (hafter : ∀ c ∈ after, blank c = true)
    (hbody : ∀ c ∈ body, blank c = false) (hne : body ≠ []) : strip blank (before ++ body ++ after) = body := by
  have hstart {cs ds : List Char} (hne : cs ≠ []) (hcs : ∀ c ∈ cs, blank c = false) :
      (cs ++ ds).dropWhile blank = cs ++ ds := by
    obtain ⟨c, cs, rfl⟩ := List.exists_cons_of_ne_nil hne
    simp [hcs c (by simp)]
  have hbody' : ∀ c ∈ body.reverse, blank c = false := fun c hc => hbody c (List.mem_reverse.mp hc)
  have hafter' : ∀ c ∈ after.reverse, blank c = true := fun c hc => hafter c (List.mem_reverse.mp hc)
  rw [strip, List.append_assoc, List.dropWhile_append_of_pos hbefore, hstart hne hbody, List.reverse_append,
    List.dropWhile_append_of_pos hafter', ← List.append_nil body.reverse, hstart (by simpa using hne) hbody',
    List.append_nil, List.reverse_reverse]

theorem exists_eq_strip_append (blank : Char → Bool) (cs : List Char) : ∃ before after,
    cs = before ++ strip blank cs ++ after ∧ (∀ c ∈ before, blank c = true) ∧ ∀ c ∈ after, blank c = true := by
  have htake (ds : List Char) : ∀ c ∈ ds.takeWhile blank, blank c = true := fun c hc =>
    List.all_eq_true.mp List.all_takeWhile c hc
  refine ⟨cs.takeWhile blank, ((cs.dropWhile blank).reverse.takeWhile blank).reverse, ?_, htake cs,
    fun c hc => htake _ c (List.mem_reverse.mp hc)⟩
  rw [strip, List.append_assoc, ← List.reverse_append, List.takeWhile_append_dropWhile, List.reverse_reverse,
    List.takeWhile_append_dropWhile]

end Text
end SpannerSchema

import SpannerSchema.Text.Ranges

/-! Blank characters, and what it means to take them off a text. -/

namespace SpannerSchema
namespace Text

/-- The blank characters of Unicode, with the four information separators, as bounds of half-open ranges. -/
def blankBounds : List Nat :=
  [0x9, 0xE, 0x1C, 0x21, 0x85, 0x86, 0xA0, 0xA1, 0x1680, 0x1681, 0x2000, 0x200B, 0x2028, 0x202A, 0x202F, 0x2030,
   0x205F, 0x2060, 0x3000, 0x3001]

/-- A space, a tab, a line break or another character that only separates. -/
def isBlank (c : Char) : Bool := inRanges c.toNat blankBounds

theorem isBlank_of_isWhitespace {c : Char} (h : c.isWhitespace = true) : isBlank c = true := by
  simp only [Char.isWhitespace, Bool.or_eq_true, decide_eq_true_eq] at h
  rcases h with ((rfl | rfl) | rfl) | rfl <;> decide

/-- The text `cs` without the characters of the class at either end. -/
def strip (blank : Char → Bool) (cs : List Char) : List Char :=
  ((cs.dropWhile blank).reverse.dropWhile blank).reverse

theorem strip_eq_self {blank : Char → Bool} {cs : List Char} (h : ∀ c ∈ cs, blank c = false) : strip blank cs = cs := by
  have hdrop {ds : List Char} (hds : ∀ c ∈ ds, blank c = false) : ds.dropWhile blank = ds := by
    cases ds with
    | nil => rfl
    | cons d ds => simp [hds d (by simp)]
  have hreverse : ∀ c ∈ cs.reverse, blank c = false := fun c hc => h c (List.mem_reverse.mp hc)
  rw [strip, hdrop h, hdrop hreverse, List.reverse_reverse]

/-- The text `cs` without its blank characters. -/
def withoutBlanks (cs : List Char) : List Char := cs.filter fun c => !isBlank c

theorem not_mem_withoutBlanks {c : Char} (h : isBlank c = true) (cs : List Char) : c ∉ withoutBlanks cs := by
  simp [withoutBlanks, h]

@[simp] theorem withoutBlanks_append (cs ds : List Char) :
    withoutBlanks (cs ++ ds) = withoutBlanks cs ++ withoutBlanks ds := by
  simp [withoutBlanks]

end Text
end SpannerSchema

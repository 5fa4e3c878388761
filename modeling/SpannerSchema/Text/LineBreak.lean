/-! Line breaks. Files come with three kinds of them, and are read as if they had one. -/

namespace SpannerSchema
namespace Text

/-- The text `cs` with every line break, also one of two characters, written as a line feed. -/
def normalizeBreaks : List Char → List Char
  | [] => []
  | '\r' :: '\n' :: rest => '\n' :: normalizeBreaks rest
  | '\r' :: rest => '\n' :: normalizeBreaks rest
  | c :: rest => c :: normalizeBreaks rest

theorem not_mem_normalizeBreaks (cs : List Char) : '\r' ∉ normalizeBreaks cs := by
  induction cs using normalizeBreaks.induct with
  | case1 => simp [normalizeBreaks]
  | case2 rest ih => simp [normalizeBreaks, ih]
  | case3 rest h ih => simp [normalizeBreaks, ih]
  | case4 c rest h₁ h₂ ih =>
    have hc : c ≠ '\r' := fun e => h₂ e
    simp [normalizeBreaks, ih, Ne.symm hc]

end Text
end SpannerSchema

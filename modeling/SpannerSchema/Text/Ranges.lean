/-! Sets of characters given by the bounds of their ranges. -/

namespace SpannerSchema
namespace Text

/-- Is `n` in one of the half-open ranges whose bounds are listed in rising order: the first member of a range,
the first number past it, and so on? -/
def inRanges (n : Nat) : List Nat → Bool
  | first :: stop :: rest => first ≤ n && (n < stop || inRanges n rest)
  | _ => false

end Text
end SpannerSchema

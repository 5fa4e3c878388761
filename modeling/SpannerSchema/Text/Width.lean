import SpannerSchema.Text.Width.Table

/-! The columns that a text takes on a terminal. A joiner hides the character after it, and a selector turns the
    character before it into a picture. -/

namespace SpannerSchema
namespace Text

/-- The columns of one character. -/
def charWidth (c : Char) : Nat :=
  if inRanges c.toNat zeroWidthBounds then 0
  else if inRanges c.toNat wideBounds then 2
  else 1

theorem charWidth_le_two (c : Char) : charWidth c ≤ 2 := by
  unfold charWidth
  split
  · omega
  · split <;> omega

/-- The character that joins two pictures into one. -/
def joiner : Char := '\u200d'

/-- The character that asks for a picture. -/
def pictureSelector : Char := '\ufe0f'

/-- The columns of a text that follows the character `last`: the last one with a width, unless a selector has
counted it. -/
def widthAfter (last : Option Char) : List Char → Nat
  | [] => 0
  | c :: rest =>
    if c == joiner then
      match rest with
      | [] => 0
      | _ :: rest => widthAfter last rest
    else if c == pictureSelector then
      (if last.any fun d => inRanges d.toNat pictureBounds then 1 else 0) + widthAfter none rest
    else if charWidth c == 0 then widthAfter last rest
    else charWidth c + widthAfter (some c) rest

/-- The columns of a text. -/
def width (cs : List Char) : Nat := widthAfter none cs

end Text
end SpannerSchema

import SpannerSchema.Text.Blank
import SpannerSchema.Text.Digit

/-! Integers as text. They are written with ASCII digits, and read with digits of any script, one low line
    allowed between two digits and blanks around. -/

namespace SpannerSchema
namespace Numeral
open Text

/-- The text of an integer: a minus sign where it is negative, and no leading zeros. -/
def ofInt : Int → List Char
  | .ofNat n => digitChars n
  | .negSucc n => '-' :: digitChars (n + 1)

/-- The digits of a numeral in which one low line may stand between two digits. -/
def grouped? : List Char → Option (List Nat)
  | [] => none
  | [c] => (digit? c).map fun d => [d]
  | c :: '_' :: rest => do return (← digit? c) :: (← grouped? rest)
  | c :: rest => do return (← digit? c) :: (← grouped? rest)

/-- A blank that may surround a numeral: any but the information separators. -/
def isMargin (c : Char) : Bool := isBlank c && !(0x1C ≤ c.toNat && c.toNat < 0x20)

/-- The integer that a text denotes. -/
def toInt? (cs : List Char) : Option Int :=
  match strip isMargin cs with
  | '-' :: rest => (grouped? rest).map fun ds => -(ofDigits ds : Int)
  | '+' :: rest => (grouped? rest).map fun ds => (ofDigits ds : Int)
  | rest => (grouped? rest).map fun ds => (ofDigits ds : Int)

end Numeral
end SpannerSchema

import SpannerSchema.Number.Numeral

/-! Decimal numbers that keep the number of their fractional digits, with the two infinities and the NaNs, and
    their text. Reading is exact at any length; only the exponent is bounded. -/

namespace SpannerSchema

/-- A number `finite negative c x` is `± c · 10^x`, so that `1.50` and `1.5` differ. A NaN may carry digits; the
payload 0 stands for none. -/
inductive Decimal where
  | finite (negative : Bool) (coefficient : Nat) (exponent : Int)
  | infinite (negative : Bool)
  | nan (negative signaling : Bool) (payload : Nat)
deriving DecidableEq, Repr

namespace Decimal
open Text

/-- Is the number zero, of either sign? -/
def isZero : Decimal → Bool
  | finite _ c _ => c == 0
  | _ => false

/-- The exponent of the leading digit of `c · 10^x`. -/
def adjusted (c : Nat) (x : Int) : Int := x + (digitChars c).length - 1

/-- No leading digit lies beyond the 999 999 999 999 999 999th power of ten. -/
def maxAdjusted : Int := 999999999999999999

/-- No last digit lies below this power of ten. -/
def minExponent : Int := -1999999999999999997

/-- Can `c · 10^x` be held without rounding? -/
def inBounds (c : Nat) (x : Int) : Bool := adjusted c x ≤ maxAdjusted && minExponent ≤ x

/-! ### Writing -/

def signText (negative : Bool) : List Char := if negative then ['-'] else []

/-- The number `c · 10^x` with a point and no exponent, for `x ≤ 0`. -/
def plainText (c : Nat) (x : Int) : List Char :=
  let digits := digitChars c
  let places := (-x).toNat
  if places = 0 then digits
  else if places < digits.length then
    digits.take (digits.length - places) ++ '.' :: digits.drop (digits.length - places)
  else '0' :: '.' :: (List.replicate (places - digits.length) '0' ++ digits)

/-- The number `c · 10^x` with one digit before the point and the exponent after a signed `E`. -/
def scientificText (c : Nat) (x : Int) : List Char :=
  let mantissa := match digitChars c with
    | lead :: rest => if rest.isEmpty then [lead] else lead :: '.' :: rest
    | [] => []
  let e := adjusted c x
  mantissa ++ 'E' :: (if 0 ≤ e then '+' :: Numeral.ofInt e else Numeral.ofInt e)

/-- The text of a decimal. It is plain where the exponent is not positive and at most five zeros follow the
point, so that all digits of the coefficient show. -/
def chars : Decimal → List Char
  | finite negative c x =>
    signText negative ++ (if x ≤ 0 && -6 ≤ adjusted c x then plainText c x else scientificText c x)
  | infinite negative => signText negative ++ "Infinity".toList
  | nan negative signaling payload =>
    signText negative ++ (if signaling then "sNaN".toList else "NaN".toList)
      ++ (if payload = 0 then [] else digitChars payload)

def text (d : Decimal) : String := String.ofList d.chars

/-! ### Reading -/

/-- The digits of `cs`, if all its characters are ASCII digits. -/
def digits? (cs : List Char) : Option (List Nat) := cs.mapM fun c => if c.isDigit then digit? c else none

/-- The exponent that `cs` denotes: digits with at most one sign before them. -/
def exponent? : List Char → Option Int
  | '-' :: cs => if cs.isEmpty then none else (digits? cs).map fun ds => -(ofDigits ds : Int)
  | '+' :: cs => if cs.isEmpty then none else (digits? cs).map fun ds => (ofDigits ds : Int)
  | cs => if cs.isEmpty then none else (digits? cs).map fun ds => (ofDigits ds : Int)

/-- The mark that opens an exponent. -/
def isExponentMark (c : Char) : Bool := c == 'e' || c == 'E'

/-- A number without its sign: digits, with a point among, before or after them, and an exponent. -/
def unsigned? (negative : Bool) (cs : List Char) : Option Decimal := do
  let mantissa := cs.takeWhile fun c => !isExponentMark c
  let x ← match cs.dropWhile fun c => !isExponentMark c with
    | [] => some 0
    | _ :: rest => exponent? rest
  let whole := mantissa.takeWhile (· != '.')
  let fraction := (mantissa.dropWhile (· != '.')).drop 1
  let ds ← digits? (whole ++ fraction)
  if ds.isEmpty then none
  else
    let c := ofDigits ds
    let x := x - fraction.length
    if inBounds c x then some (finite negative c x) else none

/-- A number, an infinity or a NaN without its sign. -/
def magnitude? (negative : Bool) (cs : List Char) : Option Decimal :=
  let small := cs.map Char.toLower
  if small == "inf".toList || small == "infinity".toList then some (infinite negative)
  else if "nan".toList.isPrefixOf small then
    (digits? (cs.drop 3)).map fun ds => nan negative false (ofDigits ds)
  else if "snan".toList.isPrefixOf small then
    (digits? (cs.drop 4)).map fun ds => nan negative true (ofDigits ds)
  else unsigned? negative cs

/-- A digit of any script as an ASCII digit; any other character as it is. -/
def asciiDigit (c : Char) : Char :=
  match digit? c with
  | some d => Char.ofNat (48 + d)
  | none => c

/-- The decimal that a text denotes: blanks around it and low lines anywhere do not count, and digits may be of
any script. -/
def ofChars? (cs : List Char) : Option Decimal :=
  match ((strip isBlank cs).filter (· != '_')).map asciiDigit with
  | '-' :: rest => magnitude? true rest
  | '+' :: rest => magnitude? false rest
  | rest => magnitude? false rest

def ofText? (s : String) : Option Decimal := ofChars? s.toList

end Decimal
end SpannerSchema

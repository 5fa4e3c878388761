import SpannerSchema.Number.Binary64

/-! The shortest text of a binary number: the fewest digits that read back as the same number, and among those
    the nearest. A number is tried on decimal grids from coarse to fine, and its two neighbours on each grid are
    read back. -/

namespace SpannerSchema
namespace Binary64
open Text

/-- The number `m · 2^e` as a fraction. -/
def ratio (m : Nat) (e : Int) : Nat × Nat := (m * Nat.pow 2 e.toNat, Nat.pow 2 (-e).toNat)

/-- The `k` with `10^(k-1) ≤ num / den < 10^k`. -/
def decimalSize (num den : Nat) : Int :=
  let d : Int := (digitChars num).length - (digitChars den).length
  let scaled := overPower 10 num den d
  if scaled.2 ≤ scaled.1 then d + 1 else d

/-- A neighbour of `m · 2^e` among the multiples of `10^g` that reads back as it: the nearer one if it does. -/
def onGrid? (m : Nat) (e g : Int) : Option Nat :=
  let r := ratio m e
  let scaled := overPower 10 r.1 r.2 g
  let near := roundDiv scaled.1 scaled.2
  let far := 2 * (scaled.1 / scaled.2) + 1 - near
  [near, far].find? fun c => ofScientific false c g == finite false m e

/-- The digits of `m · 2^e` in full: a coefficient and its power of ten. -/
def exactDigits (m : Nat) (e : Int) : Nat × Int := (m * Nat.pow 2 e.toNat * Nat.pow 5 (-e).toNat, min e 0)

/-- The coefficient and the power of ten of the fewest digits that read back as `m · 2^e`. -/
def shortest (m : Nat) (e : Int) : Nat × Int :=
  let r := ratio m e
  let size := decimalSize r.1 r.2
  let grids := (List.range 17).map fun n : Nat => size - 1 - n
  (grids.findSome? fun g => (onGrid? m e g).map fun c => (c, g)).getD (exactDigits m e)

/-- The text of digits with the point after the first `point` of them: with a point alone from the fifth place
after it to the sixteenth before it, else with one digit before the point and an exponent of two digits or
more. A whole number keeps a zero after its point. -/
def pointText (digits : List Char) (point : Int) : List Char :=
  let e := point - 1
  if -4 ≤ e && e < 16 then
    if point ≤ 0 then '0' :: '.' :: (List.replicate (-point).toNat '0' ++ digits)
    else
      let whole := point.toNat
      if digits.length ≤ whole then digits ++ List.replicate (whole - digits.length) '0' ++ ['.', '0']
      else digits.take whole ++ '.' :: digits.drop whole
  else
    let mantissa := match digits with
      | lead :: rest => if rest.isEmpty then [lead] else lead :: '.' :: rest
      | [] => []
    let size := digitChars e.natAbs
    mantissa ++ 'e' :: (if e < 0 then '-' else '+') :: (if size.length < 2 then '0' :: size else size)

/-- The text of a number that reads back as it. -/
def chars : Binary64 → List Char
  | finite negative m e =>
    let digits :=
      if m = 0 then ['0', '.', '0']
      else
        let s := shortest m e
        let all := digitChars s.1
        pointText (all.reverse.dropWhile (· == '0')).reverse (all.length + s.2)
    Decimal.signText negative ++ digits
  | infinite negative => Decimal.signText negative ++ "inf".toList
  | nan => "nan".toList

def text (x : Binary64) : String := String.ofList x.chars

end Binary64
end SpannerSchema

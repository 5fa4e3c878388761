import SpannerSchema.Number.Decimal

/-! Binary floating-point numbers of 64 bits, as exact dyadic numbers, and the reading of decimals into them: to
    the nearest one, a tie to the one with the even mantissa. -/

namespace SpannerSchema

/-- A number `finite negative m e` is `± m · 2^e`. Numbers that arise from `nearest` are canonical: `m < 2^53`,
`-1074 ≤ e ≤ 971`, and `2^52 ≤ m` unless `e = -1074`. -/
inductive Binary64 where
  | finite (negative : Bool) (mantissa : Nat) (exponent : Int)
  | infinite (negative : Bool)
  | nan
deriving DecidableEq, Repr

namespace Binary64

def zero (negative : Bool) : Binary64 := finite negative 0 (-1074)

/-- Is the number zero, of either sign? -/
def isZero : Binary64 → Bool
  | finite _ m _ => m == 0
  | _ => false

/-- The quotient `num / den` to the nearest integer, a tie to the even one. -/
def roundDiv (num den : Nat) : Nat :=
  let q := num / den
  let twice := 2 * (num % den)
  if twice < den || (twice == den && q % 2 == 0) then q else q + 1

/-- The quotient `num / den` over `base^x`, as a fraction. -/
def overPower (base : Nat) (num den : Nat) (x : Int) : Nat × Nat :=
  (num * base.pow (-x).toNat, den * base.pow x.toNat)

/-- The exponent at which `num / den` has a mantissa of 53 bits, or the least exponent. -/
def exponentOf (num den : Nat) : Int :=
  let e := (num.log2 : Int) - den.log2 - 53
  let scaled := overPower 2 num den e
  max (if scaled.2 * Nat.pow 2 53 ≤ scaled.1 then e + 1 else e) (-1074)

/-- The number with mantissa `m` at exponent `e`, after a carry out of the mantissa. -/
def ofMantissa (negative : Bool) (m : Nat) (e : Int) : Binary64 :=
  let m' := if m = Nat.pow 2 53 then Nat.pow 2 52 else m
  let e' := if m = Nat.pow 2 53 then e + 1 else e
  if 971 < e' then infinite negative else finite negative m' e'

/-- The number nearest to `± num / den`. -/
def nearest (negative : Bool) (num den : Nat) : Binary64 :=
  if num = 0 then zero negative
  else
    let e := exponentOf num den
    let scaled := overPower 2 num den e
    ofMantissa negative (roundDiv scaled.1 scaled.2) e

/-- The number nearest to `± c · 10^x`. Beyond the 310th power of ten all is infinite, and below the -330th all
is zero, so that no large power is built. -/
def ofScientific (negative : Bool) (c : Nat) (x : Int) : Binary64 :=
  let size := Decimal.adjusted c x
  if c = 0 || size < -330 then zero negative
  else if 310 < size then infinite negative
  else nearest negative (c * Nat.pow 10 x.toNat) (Nat.pow 10 (-x).toNat)

/-- The number nearest to a decimal. -/
def ofDecimal : Decimal → Binary64
  | .finite negative c x => ofScientific negative c x
  | .infinite negative => infinite negative
  | .nan .. => nan

end Binary64
end SpannerSchema

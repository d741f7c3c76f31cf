/-!
# Double precision numbers

A `Binary64` is held by its 64 bits. A finite one is a significand times a power of two, and every
result is the exact rational result rounded to the nearest such number, ties to the even
significand; all of it is arithmetic on natural numbers.
-/

namespace StackForm

/-- A number in the 64-bit binary format, by its bits: sign, eleven exponent bits, fraction. -/
structure Binary64 where
  bits : UInt64
  deriving DecidableEq, Inhabited

namespace Binary64

/-! ### Parts -/

/-- The weight of the sign bit. -/
def signWeight : Nat := Nat.pow 2 63

/-- The weight of the lowest bit of the exponent: the number of fractions that share an exponent. -/
def exponentWeight : Nat := Nat.pow 2 52

def isNegative (x : Binary64) : Bool :=
  signWeight ≤ x.bits.toNat

/-- The biased exponent. -/
def exponentField (x : Binary64) : Nat :=
  x.bits.toNat / exponentWeight % 2048

def fraction (x : Binary64) : Nat :=
  x.bits.toNat % exponentWeight

/-- Neither infinite nor undefined. -/
def isFinite (x : Binary64) : Bool :=
  x.exponentField < 2047

/-- The integer `m` of the magnitude `m * 2 ^ scale`. -/
def significand (x : Binary64) : Nat :=
  if x.exponentField = 0 then x.fraction else x.fraction + exponentWeight

/-- The exponent `q` of the magnitude `significand * 2 ^ q`. -/
def scale (x : Binary64) : Int :=
  (max x.exponentField 1 : Nat) - 1075

def isZero (x : Binary64) : Bool :=
  x.significand == 0

/-- The number whose magnitude has these bits. -/
def ofMagnitude (negative : Bool) (magnitude : Nat) : Binary64 :=
  ⟨UInt64.ofNat (if negative then magnitude + signWeight else magnitude)⟩

def zero (negative : Bool) : Binary64 :=
  ofMagnitude negative 0

def infinity (negative : Bool) : Binary64 :=
  ofMagnitude negative (2047 * exponentWeight)

/-- The same magnitude with the other sign. -/
def neg (x : Binary64) : Binary64 :=
  ⟨UInt64.ofNat ((x.bits.toNat + signWeight) % (2 * signWeight))⟩

/-- A power with an integer exponent, its negative part left to the other side of a fraction. -/
def powPart (base : Nat) (exponent : Int) : Nat :=
  Nat.pow base exponent.toNat

/-- The magnitude as a fraction. -/
def toFraction (x : Binary64) : Nat × Nat :=
  (x.significand * powPart 2 x.scale, powPart 2 (-x.scale))

/-! ### Rounding -/

/-- The integer nearest to `num / den`, a half going to the even neighbour. -/
def roundDiv (num den : Nat) : Nat :=
  let q := num / den
  let r := num % den
  if 2 * r < den then q
  else if 2 * r > den then q + 1
  else if q % 2 = 0 then q else q + 1

/-- The greatest `e` with `2 ^ e ≤ num / den`, for a positive fraction. -/
def floorLog2 (num den : Nat) : Int :=
  let e : Int := (num.log2 : Int) - den.log2
  if den * powPart 2 e ≤ num * powPart 2 (-e) then e else e - 1

/-- The number nearest to `num / den`, with the given sign; infinite above the greatest one. -/
def ofFraction (negative : Bool) (num den : Nat) : Binary64 :=
  if num = 0 then zero negative
  else
    let scale : Int := max (floorLog2 num den - 52) (-1074)
    let significand := roundDiv (num * powPart 2 (-scale)) (den * powPart 2 scale)
    let magnitude := (scale + 1074).toNat * exponentWeight + significand
    ofMagnitude negative (min magnitude (2047 * exponentWeight))

def ofNat (n : Nat) : Binary64 :=
  ofFraction false n 1

/-- The number nearest to `digits * 10 ^ exponent`. Exponents so far out that the result is infinite
or zero are answered without forming the power. -/
def ofDecimal (negative : Bool) (digits : Nat) (exponent : Int) : Binary64 :=
  if digits = 0 then zero negative
  else if exponent > 310 then infinity negative
  else if (digits.log2 : Int) + 1 + 3 * exponent < -1076 then zero negative
  else ofFraction negative (digits * powPart 10 exponent) (powPart 10 (-exponent))

/-- The product of two finite numbers. -/
def mul (x y : Binary64) : Binary64 :=
  let (xn, xd) := x.toFraction
  let (yn, yd) := y.toFraction
  ofFraction (x.isNegative != y.isNegative) (xn * yn) (xd * yd)

/-- The quotient of a finite number by a finite number that is not zero. -/
def div (x y : Binary64) : Binary64 :=
  let (xn, xd) := x.toFraction
  let (yn, yd) := y.toFraction
  ofFraction (x.isNegative != y.isNegative) (xn * yd) (xd * yn)

end Binary64

end StackForm

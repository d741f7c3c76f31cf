import StackForm.Json.Reader.Basic

/-!
# Reading numbers

A number is read as a significand and a decimal exponent. The significand takes digits as long as
it stays within 64 bits; digits of the integer part that no longer fit count into the exponent, and
digits of the fraction that no longer fit are dropped. A number without fraction and exponent that
fits is an integer; any other number is the significand, rounded, times or divided by the power of
ten, rounded again.
-/

namespace StackForm.Json

namespace Number

/-- Add digits to a significand while it fits, and count the digits that are left. -/
def accumulate (significand : Nat) : List Nat → Nat × Nat
  | [] => (significand, 0)
  | d :: ds =>
    if significand * 10 + d ≤ maxUnsigned then accumulate (significand * 10 + d) ds
    else (significand, ds.length + 1)

/-- The rounded significand scaled by a power of ten, in one rounded step, or in two for exponents
below `-308`; `none` beyond the greatest double. -/
def scaled? (significand : Nat) (exponent : Int) : Option Binary64 :=
  let base := Binary64.ofNat significand
  let tenTo (n : Nat) : Binary64 := Binary64.ofDecimal false 1 n
  if base.isZero then some base
  else if 308 < exponent then none
  else if 0 ≤ exponent then
    let product := base.mul (tenTo exponent.toNat)
    if product.isFinite then some product else none
  else if -308 ≤ exponent then some (base.div (tenTo (-exponent).toNat))
  else if -616 ≤ exponent then
    some ((base.div (tenTo 308)).div (tenTo (-exponent - 308).toNat))
  else some (Binary64.zero false)

/-- An integer if it has 64 bits and is not a negative zero, else the nearest double. -/
def ofInteger (negative : Bool) (significand : Nat) : Number :=
  if !negative then .int significand
  else if 0 < significand && minSigned ≤ -(significand : Int) then .int (-significand)
  else .double (Binary64.ofNat significand).neg

/-- A double with the given sign. -/
def ofMagnitude (negative : Bool) (magnitude : Binary64) : Number :=
  .double (if negative then magnitude.neg else magnitude)

end Number

namespace Reader

open Number

/-- The value of a decimal digit. -/
def digitValue? (b : UInt8) : Option Nat :=
  if 0x30 ≤ b && b ≤ 0x39 then some (b.toNat - 0x30) else none

def isDigit (b : UInt8) : Bool :=
  (digitValue? b).isSome

/-- The digits at the cursor. -/
def digits : Reader (List Nat) := fun c =>
  let run := c.rest.takeWhile isDigit
  .ok (run.filterMap digitValue?, c.steps run.length)

/-- How many digits make an exponent overflow 31 bits. -/
def overflowLength? (exponent : Nat) : List Nat → Option Nat
  | [] => none
  | d :: ds =>
    if exponent * 10 + d < 2147483648 then (overflowLength? (exponent * 10 + d) ds).map (· + 1)
    else some 1

/-- The scaled significand, or a failure at the cursor. -/
def scaledNumber (negative : Bool) (significand : Nat) (exponent : Int) : Reader Number :=
  match scaled? significand exponent with
  | some x => pure (ofMagnitude negative x)
  | none => fail .numberOutOfRange

/-- The exponent, from its letter on. -/
def exponentPart (negative : Bool) (significand : Nat) (exponent : Int) : Reader Number := do
  advance
  let sign ← peek
  if sign = some 0x2b || sign = some 0x2d then advance
  match ← peek with
  | none => fail .endInValue
  | some b =>
    if isDigit b then
      let start ← get
      let ds ← digits
      let below := sign = some 0x2d
      match overflowLength? 0 ds with
      | none =>
        let e : Nat := ds.foldl (fun n d => n * 10 + d) 0
        scaledNumber negative significand (if below then exponent - e else exponent + e)
      | some length =>
        if significand = 0 || below then pure (ofMagnitude negative (Binary64.zero false))
        else failAt (start.steps length) .numberOutOfRange
    else
      advance
      fail .invalidNumber

/-- The rest of a number after its digits: an exponent or nothing. -/
def exponentOrEnd (negative : Bool) (significand : Nat) (exponent : Int) : Reader Number := do
  let next ← peek
  if next = some 0x65 || next = some 0x45 then exponentPart negative significand exponent
  else scaledNumber negative significand exponent

/-- The fraction, from its point on. -/
def fractionPart (negative : Bool) (significand : Nat) (exponent : Int) : Reader Number := do
  advance
  let ds ← digits
  if ds.isEmpty then
    match ← peek with
    | none => failNext .endInValue
    | some _ => failNext .invalidNumber
  else
    let (significand, left) := accumulate significand ds
    exponentOrEnd negative significand (exponent - (ds.length - left : Nat))

/-- A number, from its first digit on. -/
def number (negative : Bool) : Reader Number := do
  match ← peek with
  | none => fail .endInValue
  | some b =>
    match digitValue? b with
    | none =>
      advance
      fail .invalidNumber
    | some first =>
      advance
      let ds ← (if first = 0 then pure [] else digits)
      let next ← peek
      if first = 0 && next.any isDigit then failNext .invalidNumber
      else
        let (significand, left) := accumulate first ds
        if next = some 0x2e then fractionPart negative significand left
        else if next = some 0x65 || next = some 0x45 then exponentPart negative significand left
        else if left = 0 then pure (ofInteger negative significand)
        else scaledNumber negative significand left

end Reader

end StackForm.Json

import StackForm.Binary64.Basic

/-!
# Shortest decimals

The decimal with the fewest digits that rounds to a given finite number and, among those, the
nearest to it. On the grid of decimals with a given number of digits, if any point rounds to the
number then one of the two neighbours of the number does, so two candidates a grid are enough.
-/

namespace StackForm

/-- The decimal `digits * 10 ^ exponent`. -/
structure Decimal where
  digits : Nat
  exponent : Int
  deriving DecidableEq

namespace Binary64

/-- The greatest `e` with `10 ^ e ≤ num / den`, searched downwards from below one. -/
def floorLog10Below (num den : Nat) : (fuel : Nat) → Int
  | 0 => -1
  | fuel + 1 => if den ≤ num * 10 then -1 else floorLog10Below (num * 10) den fuel - 1

/-- The greatest `e` with `10 ^ e ≤ num / den`, for a fraction of at least `10 ^ (-400)`. -/
def floorLog10 (num den : Nat) : Int :=
  if den ≤ num then ((Nat.toDigits 10 (num / den)).length : Int) - 1
  else floorLog10Below num den 400

/-- Lower and upper end of the reals that round to a magnitude, in quarters of its last place. -/
def quarterBounds (x : Binary64) : Nat × Nat :=
  let quarters := 4 * x.significand
  let below := if x.fraction = 0 && 1 < x.exponentField then 1 else 2
  (quarters - below, quarters + 2)

/-- `digits * 10 ^ exponent` lies among the reals that round to the magnitude of `x`; the ends do
when the significand is even. -/
def roundsTo (x : Binary64) (digits : Nat) (exponent : Int) : Bool :=
  let (low, high) := x.quarterBounds
  let quarter := x.scale - 2
  let candidate := digits * powPart 10 exponent * powPart 2 (-quarter)
  let unit := powPart 2 quarter * powPart 10 (-exponent)
  if x.significand % 2 = 0 then low * unit ≤ candidate && candidate ≤ high * unit
  else low * unit < candidate && candidate < high * unit

/-- The neighbours of the magnitude among the multiples of `10 ^ exponent`, and which is nearer. -/
def onGrid? (x : Binary64) (exponent : Int) : Option Nat :=
  let (num, den) := x.toFraction
  let top := num * powPart 10 (-exponent)
  let unit := den * powPart 10 exponent
  let below := top / unit
  let rest := top % unit
  match x.roundsTo below exponent, x.roundsTo (below + 1) exponent with
  | true, false => some below
  | false, true => some (below + 1)
  | false, false => none
  | true, true =>
    if 2 * rest < unit then some below
    else if 2 * rest > unit then some (below + 1)
    else if below % 2 = 0 then some below else some (below + 1)

/-- The first grid with a hit, from `places` digits up. -/
def searchGrids (x : Binary64) (leading : Int) : (places fuel : Nat) → Decimal
  | places, 0 => ⟨0, leading - places⟩
  | places, fuel + 1 =>
    let exponent := leading - places
    match x.onGrid? exponent with
    | some digits => ⟨digits, exponent⟩
    | none => searchGrids x leading (places + 1) fuel

/-- The shortest decimal that rounds to the magnitude of `x`, which is finite and not zero. -/
def shortest (x : Binary64) : Decimal :=
  let (num, den) := x.toFraction
  searchGrids x (floorLog10 num den) 0 20

end Binary64

end StackForm

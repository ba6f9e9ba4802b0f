import LocalRepair.Decimal.Binary64

/-!
# Shortest decimals

The shortest decimal of a double is the one with the fewest digits among those that are nearer to
it than to any other double; of several the nearest.  A decimal in the middle between two doubles
counts for the one with the even significand.  It is found by trying the multiples of ever smaller
powers of ten: a multiple of one of them lies in the interval of the double only if one of the two
next to the double does.
-/

namespace LocalRepair.Decimal

/-- The number `coefficient * 10 ^ exponent`. -/
structure Digits where
  coefficient : Nat
  exponent : Int
deriving DecidableEq, Repr

/-- A double and the ends of its interval as multiples of a unit, and what the unit has to be
divided by to give multiples of a power of ten. -/
structure Grid where
  low : Nat
  value : Nat
  high : Nat
  divisor : Nat
  closed : Bool

namespace Grid

/-- The multiples of `10 ^ power` around a double. -/
def around (magnitude : Magnitude) (power : Int) : Grid :=
  let quarter := magnitude.exponent - 2
  let scale := Nat.pow 10 (-power).toNat <<< quarter.toNat
  let middle := 4 * magnitude.significand
  { low := (middle - if magnitude.isLeast then 1 else 2) * scale
    value := middle * scale
    high := (middle + 2) * scale
    divisor := Nat.pow 10 power.toNat <<< (-quarter).toNat
    closed := magnitude.significand % 2 = 0 }

/-- Whether a multiple lies in the interval of the double. -/
def holds (grid : Grid) (multiple : Nat) : Bool :=
  let point := multiple * grid.divisor
  if grid.closed then grid.low ≤ point && point ≤ grid.high
  else grid.low < point && point < grid.high

/-- The multiple in the interval that is nearest to the double, the even one of two. -/
def nearest? (grid : Grid) : Option Nat :=
  let below := grid.value / grid.divisor
  let above := below + 1
  let fromBelow := grid.value - below * grid.divisor
  let toAbove := above * grid.divisor - grid.value
  if grid.holds below then
    if grid.holds above && (toAbove < fromBelow || (toAbove = fromBelow && above % 2 = 0)) then
      some above
    else some below
  else if grid.holds above then some above
  else none

end Grid

/-- Tries the multiples of `10 ^ power` and of the powers below it. -/
def searchDigits (magnitude : Magnitude) : Nat → Int → Digits
  | 0, power => ⟨0, power⟩
  | fuel + 1, power =>
    match (Grid.around magnitude power).nearest? with
    | some coefficient => ⟨coefficient, power⟩
    | none => searchDigits magnitude fuel (power - 1)

/-- The shortest decimal of a finite double.  The search begins above the double, and seventeen
digits tell any two doubles apart. -/
def shortest (magnitude : Magnitude) : Digits :=
  if magnitude.significand = 0 then ⟨0, 0⟩
  else
    let bits := magnitude.significand.log2 + magnitude.exponent + 1
    searchDigits magnitude 24 (bits * 30103 / 100000 + 2)

end LocalRepair.Decimal

/-!
# Doubles as exact numbers

The bits of a double hold a sign, an exponent and a fraction.  A finite double is an integer, its
significand, times a power of two.
-/

namespace LocalRepair.Decimal

/-- A non-negative finite double: `significand * 2 ^ exponent`.  The spacing of doubles halves
below it if the significand is the least of its exponent. -/
structure Magnitude where
  significand : Nat
  exponent : Int
  isLeast : Bool
deriving DecidableEq, Repr

inductive Binary64 where
  | finite (negative : Bool) (magnitude : Magnitude)
  | infinite (negative : Bool)
  | notANumber
deriving DecidableEq, Repr

namespace Binary64

/-- The leading one of a significand of 53 bits, which the fraction leaves out. -/
def implicitBit : Nat := 1 <<< 52

/-- Takes the bits of a double apart.  An exponent field of zero marks the numbers without a
leading one, and one of 2047 those that are not finite. -/
def ofBits (bits : Nat) : Binary64 :=
  let negative : Bool := bits.testBit 63
  let exponent : Nat := (bits >>> 52) % 2048
  let fraction : Nat := bits % implicitBit
  if exponent = 2047 then
    if fraction = 0 then .infinite negative else .notANumber
  else if exponent = 0 then
    .finite negative ⟨fraction, -1074, false⟩
  else
    .finite negative ⟨implicitBit + fraction, (exponent : Int) - 1075, fraction = 0 && exponent ≠ 1⟩

/-- The exact number that a double is. -/
def ofFloat (value : Float) : Binary64 :=
  ofBits value.toBits.toNat

end Binary64

end LocalRepair.Decimal

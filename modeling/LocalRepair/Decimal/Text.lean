import LocalRepair.Decimal.Shortest

/-!
# Doubles in text

Counters and reports write a double by its shortest digits and without an exponent, or with a
fixed number of places, where a half goes to the even neighbour.  Structured output uses the
shortest digits too, but marks every number as a fraction and gives very large and very small ones
an exponent.
-/

namespace LocalRepair.Decimal

def zeros (count : Nat) : String :=
  "".pushn '0' count

/-- Digits with a point behind the first `whole` of them, which may lie outside the digits. -/
def pointed (digits : String) (whole : Int) : String :=
  if whole ≤ 0 then "0." ++ zeros (-whole).toNat ++ digits
  else
    let whole := whole.toNat
    if digits.length ≤ whole then digits ++ zeros (whole - digits.length)
    else
      String.ofList (digits.toList.take whole) ++ "." ++ String.ofList (digits.toList.drop whole)

/-- Shortest digits without an exponent; integers have no point. -/
def positional (digits : Digits) : String :=
  let text := toString digits.coefficient
  if digits.coefficient = 0 then text else pointed text (text.length + digits.exponent)

/-- Shortest digits as structured output has them.  Where the point falls beyond the sixteenth
digit, or more than four zeros follow it, an exponent takes its place. -/
def fractional (digits : Digits) : String :=
  let text := toString digits.coefficient
  let whole : Int := text.length + digits.exponent
  if digits.coefficient = 0 then "0.0"
  else if 0 ≤ digits.exponent ∧ whole ≤ 16 then pointed text whole ++ ".0"
  else if -5 < whole ∧ whole ≤ 16 then pointed text whole
  else
    let first := if text.length = 1 then text else pointed text 1
    s!"{first}e{whole - 1}"

/-- A quotient rounded to an integer, a half to the even one. -/
def roundQuotient (numerator denominator : Nat) : Nat :=
  let quotient := numerator / denominator
  let rest := numerator % denominator
  if denominator < 2 * rest ∨ (2 * rest = denominator ∧ quotient % 2 = 1) then quotient + 1
  else quotient

/-- A finite double with a fixed number of places, at least one. -/
def fixed (places : Nat) (magnitude : Magnitude) : String :=
  let unit := Nat.pow 10 places
  let scaled := roundQuotient ((magnitude.significand * unit) <<< magnitude.exponent.toNat)
    (1 <<< (-magnitude.exponent).toNat)
  let fraction := toString (scaled % unit)
  s!"{scaled / unit}." ++ zeros (places - fraction.length) ++ fraction

/-- The sign and the text of a double, given how finite ones are written. -/
def signed (write : Magnitude → String) : Binary64 → String
  | .finite negative magnitude => (if negative then "-" else "") ++ write magnitude
  | .infinite negative => if negative then "-inf" else "inf"
  | .notANumber => "NaN"

/-- A double by its shortest digits, without an exponent. -/
def shortText (value : Float) : String :=
  signed (fun magnitude => positional (shortest magnitude)) (.ofFloat value)

def fixedText (value : Float) : String :=
  signed (fixed 4) (.ofFloat value)

/-- A double as structured output has it; those that are not finite have no number. -/
def structuredText (value : Float) : String :=
  match Binary64.ofFloat value with
  | .finite negative magnitude =>
    (if negative then "-" else "") ++ fractional (shortest magnitude)
  | _ => "null"

end LocalRepair.Decimal

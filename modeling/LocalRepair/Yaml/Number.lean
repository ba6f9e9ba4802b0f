import LocalRepair.Text.Integer

/-!
# Numbers as plain scalars

A plain scalar denotes an integer if it has decimal digits without a superfluous leading zero, or
digits after `0x`, `0o` or `0b`, with an optional sign.  It denotes another number if it reads as a
decimal fraction or a power of ten, or names infinity or not-a-number.  A fraction too large for a
double is not a number but a text.
-/

namespace LocalRepair.Yaml

open Text (IntegerRange readInteger)

/-- Whether digits begin with a zero that a number would not have. -/
def hasLeadingZero (characters : List Char) : Bool :=
  let digits := match characters with
    | '-' :: rest | '+' :: rest => rest
    | digits => digits
  1 < digits.length && digits.head? = some '0' && digits.all Char.isDigit

def withoutPlus : List Char → List Char
  | '+' :: rest => rest
  | characters => characters

def hasSign : List Char → Bool
  | '+' :: _ | '-' :: _ => true
  | _ => false

/-- The radix that the beginning of unsigned digits announces, with the digits after it. -/
def radix? : List Char → Option (Nat × List Char)
  | '0' :: 'x' :: digits => some (16, digits)
  | '0' :: 'o' :: digits => some (8, digits)
  | '0' :: 'b' :: digits => some (2, digits)
  | _ => none

/-- The integer of a range that digits of an announced radix denote. -/
def radixInteger? (range : IntegerRange) (negative : Bool) (characters : List Char) :
    Option Int := do
  let (radix, digits) ← radix? characters
  if hasSign digits then none
  else (readInteger range radix (if negative then '-' :: digits else digits)).toOption

/-- The integer of a range that decimal digits denote. -/
def decimalInteger? (range : IntegerRange) (characters : List Char) : Option Int :=
  if hasLeadingZero characters then none else (readInteger range 10 characters).toOption

/-- The integer of a range that a plain scalar denotes. -/
def integer? (range : IntegerRange) (characters : List Char) : Option Int :=
  let unsigned := withoutPlus characters
  let negative := match characters with
    | '-' :: rest => radixInteger? range true rest
    | _ => none
  if characters.head? = some '+' ∧ hasSign unsigned then none
  else
    (radixInteger? range false unsigned).orElse fun _ =>
      negative.orElse fun _ => decimalInteger? range characters

/-- Splits off the decimal digits at the beginning. -/
def spanDigits (characters : List Char) : List Char × List Char :=
  characters.span Char.isDigit

def decimalValue (digits : List Char) : Nat :=
  digits.foldl (fun value digit => value * 10 + (digit.toNat - '0'.toNat)) 0

/-- A decimal number: a coefficient times a power of ten. -/
structure DecimalNumber where
  coefficient : Nat
  exponent : Int

def exponent? : List Char → Option Int
  | [] => some 0
  | letter :: rest =>
    if letter = 'e' ∨ letter = 'E' then
      let digits := match rest with
        | '-' :: digits | '+' :: digits => digits
        | digits => digits
      let sign : Int := if rest.head? = some '-' then -1 else 1
      if digits ≠ [] ∧ digits.all Char.isDigit then some (sign * decimalValue digits) else none
    else none

/-- The decimal number without a sign that characters denote. -/
def decimalNumber? (characters : List Char) : Option DecimalNumber := do
  let (whole, rest) := spanDigits characters
  let (fraction, rest) := match rest with
    | '.' :: rest => spanDigits rest
    | rest => ([], rest)
  let exponent ← exponent? rest
  if whole = [] ∧ fraction = [] then none
  else
    some ⟨decimalValue (whole ++ fraction), exponent - fraction.length⟩

/-- Whether a decimal number is finite as a double, that is, below the middle between the largest
double and the power of two above it. -/
def DecimalNumber.isFinite (number : DecimalNumber) : Bool :=
  let bound := ((1 <<< 54) - 1) <<< 970
  if number.coefficient = 0 then true
  else
    match number.exponent with
    | .ofNat power => power < 310 && number.coefficient * Nat.pow 10 power < bound
    | .negSucc power =>
      let digits := Nat.log2 number.coefficient
      digits < 1023 || number.coefficient < bound * Nat.pow 10 (min (power + 1) digits)

/-- Whether a plain scalar denotes a number that is no integer. -/
def isFraction (characters : List Char) : Bool :=
  let unsigned := withoutPlus characters
  if characters.head? = some '+' ∧ hasSign unsigned then false
  else if [".inf", ".Inf", ".INF"].contains (String.ofList unsigned) then true
  else if ["-.inf", "-.Inf", "-.INF", ".nan", ".NaN", ".NAN"].contains
      (String.ofList characters) then true
  else
    let digits := match unsigned with
      | '-' :: rest => rest
      | digits => digits
    !hasLeadingZero characters && (decimalNumber? digits).any DecimalNumber.isFinite

def isNull (characters : List Char) : Bool :=
  ["", "~", "null", "Null", "NULL"].contains (String.ofList characters)

def isTruthValue (characters : List Char) : Bool :=
  ["true", "True", "TRUE", "false", "False", "FALSE"].contains (String.ofList characters)

end LocalRepair.Yaml

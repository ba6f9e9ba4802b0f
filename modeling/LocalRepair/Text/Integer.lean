/-!
# Integers in text

An integer is written as an optional sign and at least one digit of its radix.  Reading goes from
left to right and stops at the first fault: a character that is no digit, or a digit with which
the number leaves the range that it must fit.
-/

namespace LocalRepair.Text

/-- Why a text is not an integer of some range. -/
inductive IntegerFault where
  | empty
  /-- Some character is no digit, or a sign stands alone. -/
  | invalidDigit
  | tooLarge
  | tooSmall
deriving DecidableEq, Repr

def IntegerFault.message : IntegerFault → String
  | .empty => "cannot parse integer from empty string"
  | .invalidDigit => "invalid digit found in string"
  | .tooLarge => "number too large to fit in target type"
  | .tooSmall => "number too small to fit in target type"

/-- The numbers from `low` to `high`, both included. -/
structure IntegerRange where
  low : Int
  high : Int

namespace IntegerRange

def signed64 : IntegerRange := ⟨-9223372036854775808, 9223372036854775807⟩

def unsigned64 : IntegerRange := ⟨0, 18446744073709551615⟩

def signed32 : IntegerRange := ⟨-2147483648, 2147483647⟩

end IntegerRange

/-- The value of an ASCII digit or letter as a digit of the given radix. -/
def digitValue? (radix : Nat) (character : Char) : Option Nat :=
  let value? :=
    if '0' ≤ character ∧ character ≤ '9' then some (character.toNat - '0'.toNat)
    else if 'a' ≤ character ∧ character ≤ 'z' then some (character.toNat - 'a'.toNat + 10)
    else if 'A' ≤ character ∧ character ≤ 'Z' then some (character.toNat - 'A'.toNat + 10)
    else none
  value?.filter (· < radix)

/-- Appends digits to the non-negative number read so far. -/
def readUpward (high : Int) (radix : Nat) : Int → List Char → Except IntegerFault Int
  | value, [] => .ok value
  | value, character :: rest =>
    match digitValue? radix character with
    | none => .error .invalidDigit
    | some digit =>
      let next := value * radix + digit
      if next ≤ high then readUpward high radix next rest else .error .tooLarge

/-- Appends digits to the non-positive number read so far. -/
def readDownward (low : Int) (radix : Nat) : Int → List Char → Except IntegerFault Int
  | value, [] => .ok value
  | value, character :: rest =>
    match digitValue? radix character with
    | none => .error .invalidDigit
    | some digit =>
      let next := value * radix - digit
      if low ≤ next then readDownward low radix next rest else .error .tooSmall

/-- The integer that a text denotes in the given radix.  A minus sign is a sign only where the
range has negative numbers. -/
def readInteger (range : IntegerRange) (radix : Nat) : List Char → Except IntegerFault Int
  | [] => .error .empty
  | ['+'] => .error .invalidDigit
  | ['-'] => .error .invalidDigit
  | '+' :: digits => readUpward range.high radix 0 digits
  | '-' :: digits =>
    if range.low < 0 then readDownward range.low radix 0 digits else .error .invalidDigit
  | digits => readUpward range.high radix 0 digits

end LocalRepair.Text

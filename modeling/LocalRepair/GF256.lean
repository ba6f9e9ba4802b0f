import LocalRepair.Error

/-!
# The field with 256 elements

An element is a byte whose bits are the coefficients of a polynomial over the two-element field,
taken modulo `x^8 + x^4 + x^3 + x^2 + 1`.  Addition is therefore the exclusive or of bytes, and
every element is its own negative.  Multiplication adds up those shifts of one factor that the
bits of the other select; `x` generates the non-zero elements, of which there are 255, so the
inverse of an element is its power with exponent 254.
-/

namespace LocalRepair

/-- An element of the field, by its byte. -/
structure GF256 where
  byte : UInt8
deriving DecidableEq, Repr

namespace GF256

instance : Zero GF256 := ⟨⟨0⟩⟩

instance : One GF256 := ⟨⟨1⟩⟩

instance : Inhabited GF256 := ⟨0⟩

instance : Add GF256 := ⟨fun left right => ⟨left.byte ^^^ right.byte⟩⟩

/-- The element times `x`: bits move up one place, and a bit that leaves the byte comes back as
`x^4 + x^3 + x^2 + 1`. -/
def double (element : GF256) : GF256 :=
  if element.byte &&& 0x80 = 0 then ⟨element.byte <<< 1⟩ else ⟨(element.byte <<< 1) ^^^ 0x1d⟩

/-- The product with the polynomial of the lowest `count` bits of `selector`. -/
def productBits : Nat → GF256 → UInt8 → GF256
  | 0, _, _ => 0
  | count + 1, element, selector =>
    (if selector &&& 1 = 1 then element else 0) +
      productBits count element.double (selector >>> 1)

instance : Mul GF256 := ⟨fun left right => productBits 8 left right.byte⟩

/-- The product of the powers of an element with exponents `2, 4, …, 2 ^ count`. -/
def squaresProduct : Nat → GF256 → GF256
  | 0, _ => 1
  | count + 1, element =>
    let square := element * element
    square * squaresProduct count square

/-- The power with exponent 254, which is the inverse of a non-zero element. -/
instance : Inv GF256 := ⟨squaresProduct 7⟩

/-- The quotient of two elements; there is none by zero. -/
def divide (dividend divisor : GF256) : Except Error GF256 :=
  if divisor = 0 then .error .divisionByZero else .ok (dividend * divisor⁻¹)

/-- The element with the given number, which is below 256. -/
def ofNat (number : Nat) : GF256 :=
  ⟨UInt8.ofNat number⟩

def toNat (element : GF256) : Nat :=
  element.byte.toNat

end GF256

end LocalRepair

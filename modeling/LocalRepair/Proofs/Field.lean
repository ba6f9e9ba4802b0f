import Mathlib
import LocalRepair.GF256

/-!
# The bytes form a field

A product is a sum of shifts of its left factor, so multiplication by a fixed
right factor is an additive map that commutes with `double`.  Every element is
such a map applied to one, and maps of this kind commute with each other.
Commutativity and associativity follow without comparing single products; only
facts about one byte are left to evaluation.
-/

namespace LocalRepair.GF256

theorem eq_of_byte_eq {left right : GF256} (equal : left.byte = right.byte) :
    left = right := by
  cases left
  cases right
  exact congrArg GF256.mk equal

@[simp]
theorem byte_add (left right : GF256) : (left + right).byte = left.byte ^^^ right.byte := rfl

instance : Neg GF256 := ⟨id⟩

instance : AddCommGroup GF256 where
  add_assoc _ _ _ := eq_of_byte_eq (UInt8.xor_assoc _ _ _)
  zero_add _ := eq_of_byte_eq UInt8.zero_xor
  add_zero _ := eq_of_byte_eq UInt8.xor_zero
  neg_add_cancel _ := eq_of_byte_eq UInt8.xor_self
  add_comm _ _ := eq_of_byte_eq (UInt8.xor_comm _ _)
  nsmul := nsmulRec
  zsmul := zsmulRec

theorem neg_eq_self (element : GF256) : -element = element := rfl

theorem add_self (element : GF256) : element + element = 0 :=
  neg_add_cancel element

/-- Quantifies over the elements by their bytes, for statements that
evaluation settles. -/
theorem forall_of_bytes (property : GF256 → Prop)
    (bytes : ∀ number : Fin 256, property ⟨⟨⟨number⟩⟩⟩) (element : GF256) :
    property element :=
  bytes element.byte.toBitVec.toFin

theorem byte_double (element : GF256) :
    element.double.byte =
      (element.byte <<< 1) ^^^ (if element.byte &&& 0x80 = 0 then 0 else 0x1d) := by
  unfold double
  split
  · exact UInt8.xor_zero.symm
  · rfl

private theorem highBit_cases (element : GF256) :
    element.byte &&& 0x80 = 0 ∨ element.byte &&& 0x80 = 0x80 :=
  forall_of_bytes (fun element =>
    element.byte &&& 0x80 = 0 ∨ element.byte &&& 0x80 = 0x80) (by decide +kernel) element

theorem double_add (left right : GF256) :
    (left + right).double = left.double + right.double := by
  apply eq_of_byte_eq
  have mask : (left.byte ^^^ right.byte) &&& 0x80 =
      (left.byte &&& 0x80) ^^^ (right.byte &&& 0x80) := by
    apply UInt8.toBitVec_inj.mp
    ext position
    simp [Bool.and_xor_distrib_right]
  -- the corrections of the summands cancel exactly when both highest bits are set
  have correction :
      (if (left.byte &&& 0x80) ^^^ (right.byte &&& 0x80) = 0 then (0 : UInt8) else 0x1d) =
        (if left.byte &&& 0x80 = 0 then 0 else 0x1d) ^^^
          (if right.byte &&& 0x80 = 0 then 0 else 0x1d) := by
    rcases highBit_cases left with leftBit | leftBit <;>
      rcases highBit_cases right with rightBit | rightBit <;>
      rw [leftBit, rightBit] <;> rfl
  rw [byte_add, byte_double, byte_double, byte_double, byte_add,
    UInt8.shiftLeft_xor, mask, correction]
  ac_rfl

@[simp]
theorem double_zero : (0 : GF256).double = 0 := by
  decide

/-- A product by bits goes through every additive map that commutes with
`double`. -/
theorem map_productBits (map : GF256 → GF256) (mapZero : map 0 = 0)
    (mapAdd : ∀ left right, map (left + right) = map left + map right)
    (mapDouble : ∀ element, map element.double = (map element).double)
    (count : Nat) (element : GF256) (selector : UInt8) :
    map (productBits count element selector) =
      productBits count (map element) selector := by
  induction count generalizing element selector with
  | zero => exact mapZero
  | succ count ih =>
      rw [productBits, productBits, mapAdd, ih, mapDouble, apply_ite map, mapZero]

theorem productBits_zero (count : Nat) (selector : UInt8) :
    productBits count 0 selector = 0 := by
  induction count generalizing selector with
  | zero => rfl
  | succ count ih => simp [productBits, ih]

theorem productBits_add (count : Nat) (left right : GF256) (selector : UInt8) :
    productBits count (left + right) selector =
      productBits count left selector + productBits count right selector := by
  induction count generalizing left right selector with
  | zero => exact (add_zero 0).symm
  | succ count ih =>
      rw [productBits, productBits, productBits, double_add, ih]
      split
      · rw [add_add_add_comm]
      · simp

theorem productBits_double (count : Nat) (element : GF256) (selector : UInt8) :
    productBits count element.double selector =
      (productBits count element selector).double :=
  (map_productBits double double_zero double_add (fun _ => rfl)
    count element selector).symm

private theorem mul_eq (left right : GF256) :
    left * right = productBits 8 left right.byte := rfl

private theorem one_mul_eq (element : GF256) : 1 * element = element :=
  forall_of_bytes (fun element => 1 * element = element)
    (by decide +kernel) element

theorem mul_right_exchange (element left right : GF256) :
    element * left * right = element * right * left :=
  map_productBits (· * right) (productBits_zero 8 _)
    (fun _ _ => productBits_add 8 _ _ _) (fun _ => productBits_double 8 _ _)
    8 element left.byte

private theorem mul_comm_eq (left right : GF256) : left * right = right * left := by
  calc
    left * right = 1 * left * right := by rw [one_mul_eq]
    _ = 1 * right * left := mul_right_exchange 1 left right
    _ = right * left := by rw [one_mul_eq]

private theorem mul_assoc_eq (left middle right : GF256) :
    left * middle * right = left * (middle * right) := by
  calc
    left * middle * right = middle * left * right := by rw [mul_comm_eq left]
    _ = middle * right * left := mul_right_exchange middle left right
    _ = left * (middle * right) := mul_comm_eq _ _

private theorem add_mul_eq (left right factor : GF256) :
    (left + right) * factor = left * factor + right * factor :=
  productBits_add 8 left right factor.byte

instance : CommRing GF256 where
  left_distrib factor left right := by
    rw [mul_comm_eq factor, add_mul_eq, mul_comm_eq left, mul_comm_eq right]
  right_distrib := add_mul_eq
  zero_mul element := productBits_zero 8 element.byte
  mul_zero element := by
    rw [mul_comm_eq]
    exact productBits_zero 8 element.byte
  mul_assoc := mul_assoc_eq
  one_mul := one_mul_eq
  mul_one element := by
    rw [mul_comm_eq, one_mul_eq]
  mul_comm := mul_comm_eq
  neg_add_cancel := neg_add_cancel
  zsmul := zsmulRec

instance : Nontrivial GF256 := ⟨0, 1, by decide⟩

instance : CharP GF256 2 :=
  CharTwo.of_one_ne_zero_of_two_eq_zero one_ne_zero (by
    rw [← one_add_one_eq_two]
    exact add_self 1)

theorem double_eq_mul (element : GF256) : element.double = element * double 1 := by
  calc
    element.double = (1 * element).double := by rw [one_mul]
    _ = double 1 * element := (productBits_double 8 1 element.byte).symm
    _ = element * double 1 := mul_comm _ _

/-- Squaring eight times changes no element: it is a ring homomorphism, and it
fixes `x`, which generates the ring. -/
theorem pow_256 (element : GF256) : element ^ 256 = element := by
  let power : GF256 →+* GF256 := iterateFrobenius GF256 2 8
  have powerApply : ∀ element, power element = element ^ 256 := fun element =>
    iterateFrobenius_def 2 8 element
  have fixesGenerator : power (double 1) = double 1 := by
    have first : (double 1 : GF256) ^ 16 = ⟨0x4c⟩ := by decide +kernel
    have second : (⟨0x4c⟩ : GF256) ^ 16 = double 1 := by decide +kernel
    rw [powerApply, show 256 = 16 * 16 from rfl, pow_mul, first, second]
  have commutes : ∀ element, power element.double = (power element).double := by
    intro element
    rw [double_eq_mul element, map_mul, fixesGenerator, ← double_eq_mul]
  have transported := map_productBits power (map_zero power) (map_add power)
    commutes 8 1 element.byte
  rw [← mul_eq, map_one, ← mul_eq, one_mul, powerApply] at transported
  exact transported

private theorem squaresProduct_mul (count : Nat) (element : GF256) :
    squaresProduct count element * (element * element) = element ^ 2 ^ (count + 1) := by
  induction count generalizing element with
  | zero => simp [squaresProduct, pow_two]
  | succ count ih =>
      have tail := ih (element * element)
      rw [squaresProduct, mul_right_comm, mul_comm _ (squaresProduct _ _),
        tail, ← pow_two, ← pow_mul, ← pow_succ']

private theorem idempotent_cases (element : GF256) :
    element * element = element → element = 0 ∨ element = 1 :=
  forall_of_bytes (fun element =>
    element * element = element → element = 0 ∨ element = 1) (by decide +kernel) element

private theorem mul_inv_eq (element : GF256) (nonzero : element ≠ 0) :
    element * element⁻¹ = 1 := by
  have inverseSquare : element⁻¹ * (element * element) = element :=
    (squaresProduct_mul 7 element).trans (pow_256 element)
  have absorbs : element * element⁻¹ * element = element := by
    rw [mul_right_comm, mul_comm, inverseSquare]
  have idempotent : element * element⁻¹ * (element * element⁻¹) =
      element * element⁻¹ := by
    rw [← mul_assoc, absorbs]
  rcases idempotent_cases _ idempotent with zero | one
  · rw [zero, zero_mul] at absorbs
    exact absurd absorbs.symm nonzero
  · exact one

instance : Field GF256 where
  mul_inv_cancel := mul_inv_eq
  inv_zero := by decide +kernel
  nnqsmul := _
  nnqsmul_def := fun _ _ => rfl
  qsmul := _
  qsmul_def := fun _ _ => rfl

theorem divide_eq_ok {divisor : GF256} (nonzero : divisor ≠ 0) (dividend : GF256) :
    divide dividend divisor = .ok (dividend / divisor) := by
  rw [divide, if_neg nonzero, div_eq_mul_inv]

theorem ofNat_inj {left right : Nat} (leftSmall : left < 256) (rightSmall : right < 256)
    (equal : ofNat left = ofNat right) : left = right := by
  have bytes : UInt8.ofNat left = UInt8.ofNat right := congrArg GF256.byte equal
  have numbers := congrArg UInt8.toNat bytes
  simpa [Nat.mod_eq_of_lt leftSmall, Nat.mod_eq_of_lt rightSmall] using numbers

theorem ofNat_xor (left right : Nat) : ofNat (left ^^^ right) = ofNat left + ofNat right := by
  apply eq_of_byte_eq
  exact UInt8.ofNat_xor _ _

end LocalRepair.GF256

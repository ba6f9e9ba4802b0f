import Mathlib
import LocalRepair.Block
import LocalRepair.Proofs.Field
import LocalRepair.Proofs.MatrixRows

/-!
# Combinations of blocks, byte by byte

Blocks of one length are determined by their bytes, and a byte of a combination
is the combination of the bytes at its position.  The coefficients zero and one
make no exception: the sums that the shortcuts leave out or take plainly are
those that the products give.
-/

namespace LocalRepair

namespace Block

def byte (block : Block) (position : Nat) : GF256 :=
  block.getD position 0

theorem eq_of_byte_eq {left right : Block} (length : left.length = right.length)
    (bytes : ∀ position, byte left position = byte right position) : left = right := by
  apply List.ext_getElem length
  intro position leftInside rightInside
  have equal := bytes position
  simpa [byte, leftInside, rightInside] using equal

theorem byte_zero (size position : Nat) : byte (zero size) position = 0 := by
  by_cases inside : position < size <;> simp [byte, zero, inside]

theorem length_zero (size : Nat) : (zero size).length = size := by
  simp [zero]

section

variable {sum block : Block}

private theorem byte_zipWith (operation : GF256 → GF256 → GF256)
    (zeros : operation 0 0 = 0) (length : sum.length = block.length) (position : Nat) :
    byte (List.zipWith operation sum block) position =
      operation (byte sum position) (byte block position) := by
  by_cases inside : position < sum.length
  · have blockInside : position < block.length := by omega
    simp [byte, inside, blockInside]
  · have blockOutside : ¬position < block.length := by omega
    simp [byte, inside, blockOutside, zeros]

theorem length_accumulate (coefficient : GF256) (length : sum.length = block.length) :
    (accumulate sum coefficient block).length = sum.length := by
  unfold accumulate
  split_ifs <;> simp [length]

theorem byte_accumulate (coefficient : GF256) (length : sum.length = block.length)
    (position : Nat) :
    byte (accumulate sum coefficient block) position =
      byte sum position + coefficient * byte block position := by
  unfold accumulate
  split_ifs with isZero isOne
  · rw [isZero, zero_mul, add_zero]
  · rw [byte_zipWith _ (add_zero 0) length, isOne, one_mul]
  · rw [byte_zipWith _ (by simp) length, mul_comm coefficient]

end

private theorem foldl_accumulate {size : Nat} (terms : List (Block × GF256))
    (lengths : ∀ term ∈ terms, term.1.length = size) (sum : Block)
    (sumLength : sum.length = size) :
    let total := terms.foldl (fun sum term => accumulate sum term.2 term.1) sum
    total.length = size ∧ ∀ position, byte total position =
      byte sum position + (terms.map fun term => term.2 * byte term.1 position).sum := by
  induction terms generalizing sum with
  | nil =>
      refine ⟨sumLength, ?_⟩
      intro position
      simp
  | cons head tail ih =>
      have headLength : sum.length = head.1.length := by
        rw [sumLength, lengths head List.mem_cons_self]
      have tailLengths := fun term member => lengths term (List.mem_cons_of_mem head member)
      obtain ⟨length, bytes⟩ := ih tailLengths (accumulate sum head.2 head.1)
        (by rw [length_accumulate _ headLength, sumLength])
      refine ⟨length, ?_⟩
      intro position
      rw [List.foldl_cons, bytes position, byte_accumulate _ headLength, List.map_cons,
        List.sum_cons, add_assoc]

section

variable {size : Nat} {blocks : List Block}

theorem length_combine (lengths : ∀ block ∈ blocks, block.length = size)
    (coefficients : List GF256) : (combine size blocks coefficients).length = size :=
  (foldl_accumulate (blocks.zip coefficients)
    (fun term member => lengths term.1 (List.of_mem_zip member).1)
    (zero size) (length_zero size)).1

theorem byte_combine (lengths : ∀ block ∈ blocks, block.length = size)
    (coefficients : List GF256) (position : Nat) :
    byte (combine size blocks coefficients) position =
      ((blocks.zip coefficients).map fun term => term.2 * byte term.1 position).sum := by
  have bytes := (foldl_accumulate (blocks.zip coefficients)
    (fun term member => lengths term.1 (List.of_mem_zip member).1)
    (zero size) (length_zero size)).2 position
  rw [byte_zero, zero_add] at bytes
  exact bytes

end

end Block

theorem combineRows_eq {coefficients : DenseMatrix} (wellFormed : coefficients.WellFormed)
    (size : Nat) (inputs : List Block) (row : Nat) (outputs : List Block)
    (inside : row + outputs.length ≤ coefficients.rows) :
    combineRows size inputs coefficients row outputs =
      ⟨(List.range' row outputs.length).map fun row =>
        Block.combine size inputs ((List.range coefficients.cols).map (coefficients.get row)),
        .ok ()⟩ := by
  induction outputs generalizing row with
  | nil => rfl
  | cons head tail ih =>
      rw [List.length_cons] at inside
      have rowInside : row < coefficients.rows := by omega
      have rest := ih (row + 1) (by omega)
      rw [combineRows, DenseMatrix.row_eq_ok wellFormed rowInside]
      simp only [rest, List.length_cons, List.range'_succ, List.map_cons]

/-- The length of the first block, zero if there is none. -/
def firstLength (blocks : List Block) : Nat :=
  (blocks.head?.map List.length).getD 0

/-- An output for each row of the coefficients, an input for each column, and one length. -/
structure Fits (outputs inputs : List Block) (coefficients : DenseMatrix) : Prop where
  rows : outputs.length = coefficients.rows
  cols : inputs.length = coefficients.cols
  lengths : ∀ input ∈ inputs, input.length = firstLength inputs

theorem multiplyAccumulate_of_fits {coefficients : DenseMatrix}
    (wellFormed : coefficients.WellFormed) {outputs inputs : List Block}
    (fits : Fits outputs inputs coefficients) :
    multiplyAccumulate outputs inputs coefficients =
      ⟨(List.range outputs.length).map fun row => Block.combine (firstLength inputs) inputs
        ((List.range coefficients.cols).map (coefficients.get row)), .ok ()⟩ := by
  have uniform : inputs.find? (·.length ≠ firstLength inputs) = none := by
    rw [List.find?_eq_none]
    intro input member
    simp [fits.lengths input member]
  unfold multiplyAccumulate
  rw [if_neg (not_not.mpr fits.rows), if_neg (not_not.mpr fits.cols)]
  dsimp only
  rw [← firstLength, uniform]
  dsimp only
  rw [combineRows_eq wellFormed _ _ _ _ (by rw [Nat.zero_add, fits.rows])]
  simp only [List.range_eq_range']

theorem multiplyAccumulate_eq {coefficients : DenseMatrix}
    (wellFormed : coefficients.WellFormed) {outputs inputs : List Block} {size : Nat}
    (rows : outputs.length = coefficients.rows) (cols : inputs.length = coefficients.cols)
    (nonempty : inputs ≠ []) (lengths : ∀ block ∈ inputs, block.length = size) :
    multiplyAccumulate outputs inputs coefficients =
      ⟨(List.range outputs.length).map fun row =>
        Block.combine size inputs ((List.range coefficients.cols).map (coefficients.get row)),
        .ok ()⟩ := by
  have first : firstLength inputs = size := by
    obtain ⟨head, tail, rfl⟩ := List.exists_cons_of_ne_nil nonempty
    exact lengths head List.mem_cons_self
  rw [multiplyAccumulate_of_fits wellFormed ⟨rows, cols, first ▸ lengths⟩, first]

end LocalRepair

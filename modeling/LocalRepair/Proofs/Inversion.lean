import Mathlib
import LocalRepair.Proofs.Elimination

/-!
# Inverses over the field

A square matrix is read as a matrix over the field with 256 elements.  Elimination
returns the inverse that the matrix has there, and refuses every other matrix as
singular; nothing else can go wrong with a well-formed matrix.
-/

namespace LocalRepair.DenseMatrix

/-- The entries in the first `size` rows and columns, as a matrix over the field. -/
def toMatrix (matrix : DenseMatrix) (size : Nat) : Matrix (Fin size) (Fin size) GF256 :=
  Matrix.of fun row col => matrix.get row col

/-- As many rows as columns, and an inverse over the field. -/
def HasInverse (matrix : DenseMatrix) : Prop :=
  matrix.rows = matrix.cols ∧ IsUnit (matrix.toMatrix matrix.rows)

/-- Two well-formed square matrices of one size whose products are the identity. -/
structure IsInverse (matrix inverse : DenseMatrix) : Prop where
  square : matrix.Square matrix.rows
  inverseSquare : inverse.Square matrix.rows
  mul_inverse : matrix.toMatrix matrix.rows * inverse.toMatrix matrix.rows = 1
  inverse_mul : inverse.toMatrix matrix.rows * matrix.toMatrix matrix.rows = 1

section

variable {matrix : DenseMatrix} {size : Nat}

theorem Square.mulVec_toMatrix (square : matrix.Square size) (vector : Nat → GF256)
    (row : Fin size) :
    (matrix.toMatrix size).mulVec (fun col => vector col) row =
      matrix.rowProduct row vector := by
  rw [square.rowProduct_eq]
  exact Fin.sum_univ_eq_sum_range (fun col => matrix.get row col * vector col) size

theorem Square.rowProduct_unit (square : matrix.Square size) (row : Nat) {unit : Nat}
    (inside : unit < size) :
    matrix.rowProduct row (fun col => if col = unit then 1 else 0) = matrix.get row unit := by
  simp [square.rowProduct_eq, inside]

theorem Square.ext {other : DenseMatrix} (square : matrix.Square size)
    (otherSquare : other.Square size) (same : matrix.toMatrix size = other.toMatrix size) :
    matrix = other := by
  have entries : ∀ row < size, ∀ col < size, matrix.get row col = other.get row col :=
    fun row rowInside col colInside =>
      congrFun (congrFun same ⟨row, rowInside⟩) ⟨col, colInside⟩
  have count : matrix.data.size = size * size := by
    rw [square.wellFormed, square.rows_eq, square.cols_eq]
  have otherCount : other.data.size = size * size := by
    rw [otherSquare.wellFormed, otherSquare.rows_eq, otherSquare.cols_eq]
  have data : matrix.data = other.data := by
    apply Array.ext (count.trans otherCount.symm)
    intro index inside otherInside
    rw [count] at inside
    have positive : 0 < size := Nat.pos_of_mul_pos_left (Nat.zero_lt_of_lt inside)
    have entry := entries (index / size) (Nat.div_lt_of_lt_mul inside) (index % size)
      (Nat.mod_lt index positive)
    rw [get, get, square.cols_eq, otherSquare.cols_eq, Nat.div_add_mod'] at entry
    simpa [Array.getD, count, otherCount, inside] using entry
  cases matrix
  cases other
  cases square.rows_eq
  cases square.cols_eq
  cases otherSquare.rows_eq
  cases otherSquare.cols_eq
  cases data
  rfl

theorem Square.isInverse_of_solves (square : matrix.Square matrix.rows) {inverse : DenseMatrix}
    (inverseSquare : inverse.Square matrix.rows)
    (solves : ∀ vector image : Nat → GF256,
      (∀ row < matrix.rows, matrix.rowProduct row vector = image row) ↔
        ∀ row < matrix.rows, vector row = inverse.rowProduct row image) :
    matrix.IsInverse inverse := by
  have product : matrix.toMatrix matrix.rows * inverse.toMatrix matrix.rows = 1 := by
    ext row col
    -- column `col` of the inverse is the solution for the unit vector at `col`
    have solution := (solves (fun index => inverse.get index col)
      (fun index => if index = col then 1 else 0)).mpr
        (fun index _ => (inverseSquare.rowProduct_unit index col.isLt).symm) row row.isLt
    calc
      (matrix.toMatrix matrix.rows * inverse.toMatrix matrix.rows) row col =
          matrix.rowProduct row fun index => inverse.get index col :=
        square.mulVec_toMatrix (fun index => inverse.get index col) row
      _ = if (row : Nat) = col then 1 else 0 := solution
      _ = (1 : Matrix (Fin matrix.rows) (Fin matrix.rows) GF256) row col := by
        simp [Matrix.one_apply, Fin.ext_iff]
  exact ⟨square, inverseSquare, product, mul_eq_one_comm.mp product⟩

theorem IsInverse.hasInverse {inverse : DenseMatrix} (isInverse : matrix.IsInverse inverse) :
    matrix.HasInverse :=
  ⟨isInverse.square.cols_eq.symm,
    ⟨⟨_, _, isInverse.mul_inverse, isInverse.inverse_mul⟩, rfl⟩⟩

theorem IsInverse.unique {left right : DenseMatrix} (isLeft : matrix.IsInverse left)
    (isRight : matrix.IsInverse right) : left = right :=
  isLeft.inverseSquare.ext isRight.inverseSquare
    (left_inv_eq_right_inv isLeft.inverse_mul isRight.mul_inverse)

theorem HasInverse.eq_zero_of_kernel (hasInverse : matrix.HasInverse)
    (square : matrix.Square matrix.rows) {vector : Nat → GF256}
    (kernel : ∀ row < matrix.rows, matrix.rowProduct row vector = 0) :
    ∀ index < matrix.rows, vector index = 0 := by
  -- a vector in the kernel has the image of zero, and an invertible matrix is injective
  have image : (matrix.toMatrix matrix.rows).mulVec (fun col => vector col) =
      (matrix.toMatrix matrix.rows).mulVec 0 := by
    rw [Matrix.mulVec_zero]
    funext row
    rw [square.mulVec_toMatrix]
    exact kernel row row.isLt
  have zero := Matrix.mulVec_injective_of_isUnit hasInverse.2 image
  intro index inside
  exact congrFun zero ⟨index, inside⟩

/-- Elimination finds an inverse, or there is none and the matrix is refused. -/
theorem WellFormed.invert_cases (wellFormed : matrix.WellFormed) :
    (∃ inverse, matrix.invert = .ok inverse ∧ matrix.IsInverse inverse) ∨
      (matrix.invert = .error (.singularMatrix matrix.rows) ∧ ¬matrix.HasInverse) := by
  by_cases isSquare : matrix.rows = matrix.cols
  · have square : matrix.Square matrix.rows := ⟨wellFormed, rfl, isSquare.symm⟩
    rcases square.invert_cases with ⟨inverse, success, inverseSquare, solves⟩ |
      ⟨refused, vector, ⟨index, inside, nonzero⟩, kernel⟩
    · exact .inl ⟨inverse, success, square.isInverse_of_solves inverseSquare solves⟩
    · refine .inr ⟨refused, ?_⟩
      intro hasInverse
      exact nonzero (hasInverse.eq_zero_of_kernel square kernel index inside)
  · refine .inr ⟨?_, fun hasInverse => isSquare hasInverse.1⟩
    rw [invert, if_neg (by simpa [DenseMatrix.isSquare] using isSquare)]

end

/-- Elimination returns the inverse of a matrix that has one over the field, and
refuses every other matrix as singular. -/
theorem invert_eq_iff_isInverse {matrix : DenseMatrix} (wellFormed : matrix.WellFormed) :
    ((∃ inverse, matrix.invert = .ok inverse) ↔ matrix.HasInverse) ∧
      (∀ inverse, matrix.invert = .ok inverse ↔ matrix.IsInverse inverse) ∧
      ∀ cause, matrix.invert = .error cause ↔
        cause = .singularMatrix matrix.rows ∧ ¬matrix.HasInverse := by
  rcases wellFormed.invert_cases with ⟨found, success, isInverse⟩ | ⟨refused, none⟩
  · refine ⟨⟨fun _ => isInverse.hasInverse, fun _ => ⟨found, success⟩⟩, ?_, ?_⟩
    · intro inverse
      rw [success, Except.ok.injEq]
      constructor
      · rintro rfl
        exact isInverse
      · exact isInverse.unique
    · intro cause
      rw [success]
      constructor
      · intro impossible
        cases impossible
      · rintro ⟨_, none⟩
        exact absurd isInverse.hasInverse none
  · rw [refused]
    refine ⟨⟨?_, fun hasInverse => absurd hasInverse none⟩, ?_, ?_⟩
    · rintro ⟨_, impossible⟩
      cases impossible
    · intro inverse
      constructor
      · intro impossible
        cases impossible
      · intro isInverse
        exact absurd isInverse.hasInverse none
    · intro cause
      rw [Except.error.injEq, eq_comm]
      exact (and_iff_left none).symm

/-- A matrix whose rows must be exchanged first, and one whose rows are equal. -/
theorem invert_eq_iff_isInverse_pair :
    ∃ inverse, invert ⟨2, 2, #[0, 1, ⟨2⟩, ⟨3⟩]⟩ = .ok inverse ∧
      IsInverse ⟨2, 2, #[0, 1, ⟨2⟩, ⟨3⟩]⟩ inverse ∧
      invert ⟨2, 2, #[⟨5⟩, ⟨7⟩, ⟨5⟩, ⟨7⟩]⟩ = .error (.singularMatrix 2) ∧
      ¬HasInverse ⟨2, 2, #[⟨5⟩, ⟨7⟩, ⟨5⟩, ⟨7⟩]⟩ := by
  obtain ⟨inverse, success⟩ : ∃ inverse, invert ⟨2, 2, #[0, 1, ⟨2⟩, ⟨3⟩]⟩ = .ok inverse :=
    Outcome.exists_of_isOk (by decide +kernel)
  have refused : invert ⟨2, 2, #[⟨5⟩, ⟨7⟩, ⟨5⟩, ⟨7⟩]⟩ = .error (.singularMatrix 2) := by
    decide +kernel
  obtain ⟨_, found, _⟩ :=
    invert_eq_iff_isInverse (rfl : WellFormed ⟨2, 2, #[0, 1, ⟨2⟩, ⟨3⟩]⟩)
  obtain ⟨_, _, refusal⟩ :=
    invert_eq_iff_isInverse (rfl : WellFormed ⟨2, 2, #[⟨5⟩, ⟨7⟩, ⟨5⟩, ⟨7⟩]⟩)
  exact ⟨inverse, success, (found inverse).mp success, refused,
    ((refusal (.singularMatrix 2)).mp refused).2⟩

end LocalRepair.DenseMatrix

import Mathlib
import LocalRepair.DenseMatrix.Inverse
import LocalRepair.Proofs.Field
import LocalRepair.Proofs.Outcome

/-!
# What elimination computes

The matrix under elimination and the product of the steps are read as the two
sides of a system of equations.  No step changes the solutions of that system,
which at the beginning relate a vector to its image under the matrix.  If every
column has a pivot, the system ends up solved, so the product of the steps is
the inverse; a column without one shows a vector that the matrix sends to zero.
-/

namespace LocalRepair.DenseMatrix

/-- The product of a row and a column vector. -/
def rowProduct (matrix : DenseMatrix) (row : Nat) (vector : Nat → GF256) : GF256 :=
  ∑ col ∈ Finset.range matrix.cols, matrix.get row col * vector col

/-- Well-formed with as many rows as columns. -/
structure Square (matrix : DenseMatrix) (size : Nat) : Prop where
  wellFormed : matrix.WellFormed
  rows_eq : matrix.rows = size
  cols_eq : matrix.cols = size

theorem rowProduct_congr {matrix : DenseMatrix} {row : Nat} {left right : Nat → GF256}
    (agree : ∀ col < matrix.cols, left col = right col) :
    matrix.rowProduct row left = matrix.rowProduct row right := by
  apply Finset.sum_congr rfl
  intro col member
  rw [agree col (Finset.mem_range.mp member)]

theorem rowProduct_zero {matrix : DenseMatrix} {row : Nat} {vector : Nat → GF256}
    (zero : ∀ col < matrix.cols, vector col = 0) : matrix.rowProduct row vector = 0 := by
  apply Finset.sum_eq_zero
  intro col member
  rw [zero col (Finset.mem_range.mp member), mul_zero]

theorem square_identity (size : Nat) : (identity size).Square size where
  wellFormed := wellFormed_ofFn _ _ _
  rows_eq := rfl
  cols_eq := rfl

theorem rowProduct_identity {size row : Nat} (inside : row < size) (vector : Nat → GF256) :
    (identity size).rowProduct row vector = vector row := by
  have entries : ∀ col ∈ Finset.range size,
      (identity size).get row col * vector col = if col = row then vector row else 0 := by
    intro col member
    rw [identity, get_ofFn _ inside (Finset.mem_range.mp member)]
    by_cases same : row = col
    · simp [same]
    · simp [same, Ne.symm same]
  calc
    (identity size).rowProduct row vector =
        ∑ col ∈ Finset.range size, if col = row then vector row else 0 :=
      Finset.sum_congr rfl entries
    _ = vector row := by simp [inside]

namespace Square

variable {matrix : DenseMatrix} {size : Nat}

theorem stored (square : matrix.Square size) {row col : Nat}
    (rowInside : row < size) (colInside : col < size) :
    row * matrix.cols + col < matrix.data.size := by
  rw [square.wellFormed, square.rows_eq, square.cols_eq]
  exact index_lt rowInside colInside

theorem entry_eq (square : matrix.Square size) {row col : Nat}
    (rowInside : row < size) (colInside : col < size) :
    matrix.entry row col = .ok (matrix.get row col) := by
  have inside := square.stored rowInside colInside
  simp [entry, get, Error.stored, Array.getD, inside]

theorem rows_stored (square : matrix.Square size) {row : Nat} (inside : row < size) :
    (row + 1) * matrix.cols ≤ matrix.data.size := by
  rw [square.wellFormed, square.rows_eq]
  exact Nat.mul_le_mul_right _ inside

theorem row_ok (square : matrix.Square size) {row : Nat} (inside : row < size) :
    ∃ entries, matrix.row row = .ok entries := by
  unfold DenseMatrix.row
  rw [if_pos (square.rows_stored inside)]
  exact ⟨_, rfl⟩

theorem mapEntries (square : matrix.Square size) (update : Nat → Nat → GF256 → GF256) :
    (matrix.mapEntries update).Square size where
  wellFormed := wellFormed_mapEntries square.wellFormed update
  rows_eq := by rw [rows_mapEntries, square.rows_eq]
  cols_eq := by rw [cols_mapEntries, square.cols_eq]

theorem get_mapEntries (square : matrix.Square size)
    (update : Nat → Nat → GF256 → GF256) {row col : Nat}
    (rowInside : row < size) (colInside : col < size) :
    (matrix.mapEntries update).get row col = update row col (matrix.get row col) :=
  DenseMatrix.get_mapEntries square.wellFormed update
    (by rwa [square.rows_eq]) (by rwa [square.cols_eq])

theorem rowProduct_mapEntries (square : matrix.Square size)
    (update : Nat → Nat → GF256 → GF256) {row : Nat} (inside : row < size)
    (vector : Nat → GF256) :
    (matrix.mapEntries update).rowProduct row vector =
      ∑ col ∈ Finset.range size, update row col (matrix.get row col) * vector col := by
  rw [rowProduct, cols_mapEntries, square.cols_eq]
  apply Finset.sum_congr rfl
  intro col member
  rw [square.get_mapEntries update inside (Finset.mem_range.mp member)]

theorem rowProduct_eq (square : matrix.Square size) (row : Nat) (vector : Nat → GF256) :
    matrix.rowProduct row vector =
      ∑ col ∈ Finset.range size, matrix.get row col * vector col := by
  rw [rowProduct, square.cols_eq]

theorem scaleRow (square : matrix.Square size) (target : Nat) (factor : GF256) :
    (matrix.scaleRow target factor).Square size :=
  square.mapEntries _

theorem addRow (square : matrix.Square size) (source : Nat) (factor : Nat → GF256) :
    (matrix.addRow source factor).Square size :=
  square.mapEntries _

theorem swapRows_eq (square : matrix.Square size) {first second : Nat}
    (firstInside : first < size) (secondInside : second < size) :
    ∃ swapped, matrix.swapRows first second = .ok swapped ∧ swapped.Square size ∧
      ∀ row < size, ∀ col < size,
        swapped.get row col = matrix.get (Equiv.swap first second row) col := by
  unfold swapRows
  by_cases same : first = second
  · rw [if_pos same]
    refine ⟨matrix, rfl, square, ?_⟩
    intro row _ col _
    rw [same, Equiv.swap_self, Equiv.refl_apply]
  · have stored : (max first second + 1) * matrix.cols ≤ matrix.data.size :=
      square.rows_stored (max_lt firstInside secondInside)
    rw [if_neg same, if_pos stored]
    refine ⟨_, rfl, square.mapEntries _, ?_⟩
    intro row rowInside col colInside
    rw [square.get_mapEntries _ rowInside colInside, Equiv.swap_apply_def]
    split_ifs <;> rfl

end Square

theorem rowProduct_of_swapped {matrix swapped : DenseMatrix} {size first second : Nat}
    (square : matrix.Square size) (swappedSquare : swapped.Square size)
    (entries : ∀ row < size, ∀ col < size,
      swapped.get row col = matrix.get (Equiv.swap first second row) col)
    {row : Nat} (inside : row < size) (vector : Nat → GF256) :
    swapped.rowProduct row vector =
      matrix.rowProduct (Equiv.swap first second row) vector := by
  rw [square.rowProduct_eq, swappedSquare.rowProduct_eq]
  apply Finset.sum_congr rfl
  intro col member
  rw [entries row inside col (Finset.mem_range.mp member)]

theorem rowProduct_scaleRow {matrix : DenseMatrix} {size : Nat} (square : matrix.Square size)
    (target : Nat) (factor : GF256) {row : Nat} (inside : row < size)
    (vector : Nat → GF256) :
    (scaleRow matrix target factor).rowProduct row vector =
      if row = target then factor * matrix.rowProduct row vector
      else matrix.rowProduct row vector := by
  rw [scaleRow, square.rowProduct_mapEntries _ inside, square.rowProduct_eq]
  split
  · rw [Finset.mul_sum]
    apply Finset.sum_congr rfl
    intro col _
    ring
  · rfl

theorem rowProduct_addRow {matrix : DenseMatrix} {size : Nat} (square : matrix.Square size)
    {source : Nat} (factor : Nat → GF256) {row : Nat} (inside : row < size)
    (vector : Nat → GF256) :
    (addRow matrix source factor).rowProduct row vector =
      if row = source then matrix.rowProduct row vector
      else matrix.rowProduct row vector + factor row * matrix.rowProduct source vector := by
  rw [addRow, square.rowProduct_mapEntries _ inside, square.rowProduct_eq,
    square.rowProduct_eq]
  split
  · rfl
  · rw [Finset.mul_sum, ← Finset.sum_add_distrib]
    apply Finset.sum_congr rfl
    intro col _
    ring

theorem findPivot_cases {work : DenseMatrix} {size col : Nat} (square : work.Square size)
    (colInside : col < size) {rows : List Nat} (inside : ∀ row ∈ rows, row < size) :
    (∃ pivot ∈ rows, findPivot work col rows = .ok pivot ∧ work.get pivot col ≠ 0) ∨
      (findPivot work col rows = .error (.singularMatrix size) ∧
        ∀ row ∈ rows, work.get row col = 0) := by
  induction rows with
  | nil =>
      right
      rw [findPivot, square.rows_eq]
      exact ⟨rfl, by simp⟩
  | cons head tail ih =>
      have headInside := inside head List.mem_cons_self
      rw [findPivot, square.entry_eq headInside colInside, Outcome.ok_bind]
      by_cases zero : work.get head col = 0
      · rw [if_pos zero]
        rcases ih fun row member => inside row (List.mem_cons_of_mem head member) with
          ⟨pivot, member, found, nonzero⟩ | ⟨missing, zeros⟩
        · exact .inl ⟨pivot, List.mem_cons_of_mem head member, found, nonzero⟩
        · refine .inr ⟨missing, ?_⟩
          intro row member
          rcases List.mem_cons.mp member with same | later
          · rw [same, zero]
          · exact zeros row later
      · rw [if_neg zero]
        exact .inl ⟨head, List.mem_cons_self, rfl, zero⟩

namespace Elimination

/-- The vectors that the two sides of the system relate. -/
def Relates (state : Elimination) (size : Nat) (vector image : Nat → GF256) : Prop :=
  ∀ row < size, state.work.rowProduct row vector = state.inverse.rowProduct row image

/-- What holds before the column `col` is treated: the system has the solutions
it had at the beginning, and the columns before are those of the identity. -/
structure Invariant (matrix : DenseMatrix) (size col : Nat) (state : Elimination) :
    Prop where
  work : state.work.Square size
  inverse : state.inverse.Square size
  relates : ∀ vector image, state.Relates size vector image ↔
    ∀ row < size, matrix.rowProduct row vector = image row
  cleared : ∀ row < size, ∀ other < col,
    state.work.get row other = if row = other then 1 else 0

theorem Invariant.start {matrix : DenseMatrix} {size : Nat} (square : matrix.Square size) :
    Invariant matrix size 0 ⟨matrix, identity size⟩ where
  work := square
  inverse := square_identity size
  relates vector image := by
    constructor
    · intro related row inside
      rw [related row inside, rowProduct_identity inside]
    · intro related row inside
      rw [rowProduct_identity inside]
      exact related row inside
  cleared row _ other before := absurd before (Nat.not_lt_zero other)

/-- A column without pivot combines from the columns before it. -/
theorem Invariant.exists_kernel {matrix : DenseMatrix} {size col : Nat}
    {state : Elimination} (invariant : Invariant matrix size col state)
    (colInside : col < size)
    (noPivot : ∀ row < size, col ≤ row → state.work.get row col = 0) :
    ∃ vector : Nat → GF256, (∃ index < size, vector index ≠ 0) ∧
      ∀ row < size, matrix.rowProduct row vector = 0 := by
  let vector : Nat → GF256 := fun index =>
    if index = col then 1 else if index < col then state.work.get index col else 0
  refine ⟨vector, ⟨col, colInside, by simp [vector]⟩, ?_⟩
  apply (invariant.relates vector 0).mp
  intro row inside
  have image : state.inverse.rowProduct row (0 : Nat → GF256) = 0 :=
    rowProduct_zero fun _ _ => rfl
  rw [image, invariant.work.rowProduct_eq]
  -- of the terms only the one at `col` and, above the diagonal, the one at `row` remain
  have terms : ∀ index ∈ Finset.range size,
      state.work.get row index * vector index =
        (if index = col then state.work.get row col else 0) +
          if index = row then (if row < col then state.work.get row col else 0) else 0 := by
    intro index member
    have indexInside := Finset.mem_range.mp member
    simp only [vector]
    by_cases atCol : index = col
    · subst atCol
      by_cases same : index = row
      · subst same
        simp
      · simp [same]
    · by_cases before : index < col
      · rw [invariant.cleared row inside index before]
        by_cases same : row = index
        · subst same
          simp [atCol, before]
        · simp [atCol, before, same, Ne.symm same]
      · by_cases same : index = row
        · subst same
          simp [atCol, before]
        · simp [atCol, before, same]
  rw [Finset.sum_congr rfl terms, Finset.sum_add_distrib, Finset.sum_ite_eq',
    Finset.sum_ite_eq', if_pos (Finset.mem_range.mpr colInside),
    if_pos (Finset.mem_range.mpr inside)]
  by_cases above : row < col
  · rw [if_pos above, GF256.add_self]
  · rw [if_neg above, noPivot row inside (Nat.le_of_not_lt above), add_zero]

theorem Invariant.bringPivot {matrix : DenseMatrix} {size col : Nat}
    {state : Elimination} (invariant : Invariant matrix size col state)
    (colInside : col < size) :
    (∃ next, state.bringPivot col = .ok next ∧ Invariant matrix size col next ∧
        next.work.get col col ≠ 0) ∨
      (state.bringPivot col = .error (.singularMatrix size) ∧
        ∀ row < size, col ≤ row → state.work.get row col = 0) := by
  have searched : ∀ row, row ∈ List.range' col (state.work.rows - col) ↔
      col ≤ row ∧ row < size := by
    intro row
    rw [List.mem_range'_1, invariant.work.rows_eq]
    omega
  unfold Elimination.bringPivot
  rcases findPivot_cases invariant.work colInside
      (fun row member => ((searched row).mp member).2) with
    ⟨pivot, member, found, nonzero⟩ | ⟨missing, zeros⟩
  · obtain ⟨past, pivotInside⟩ := (searched pivot).mp member
    obtain ⟨work, workOk, workSquare, workEntries⟩ :=
      invariant.work.swapRows_eq colInside pivotInside
    obtain ⟨inverse, inverseOk, inverseSquare, inverseEntries⟩ :=
      invariant.inverse.swapRows_eq colInside pivotInside
    have swapInside : ∀ row < size, Equiv.swap col pivot row < size := by
      intro row inside
      rw [Equiv.swap_apply_def]
      split_ifs <;> assumption
    rw [found, Outcome.ok_bind, workOk, Outcome.ok_bind, inverseOk]
    refine .inl ⟨⟨work, inverse⟩, rfl, ⟨workSquare, inverseSquare, ?_, ?_⟩, ?_⟩
    · intro vector image
      rw [← invariant.relates]
      constructor
      · intro related row inside
        have exchanged := related (Equiv.swap col pivot row) (swapInside row inside)
        rwa [rowProduct_of_swapped invariant.work workSquare workEntries
            (swapInside row inside),
          rowProduct_of_swapped invariant.inverse inverseSquare inverseEntries
            (swapInside row inside), Equiv.swap_apply_self] at exchanged
      · intro related row inside
        rw [rowProduct_of_swapped invariant.work workSquare workEntries inside,
          rowProduct_of_swapped invariant.inverse inverseSquare inverseEntries inside]
        exact related _ (swapInside row inside)
    · intro row inside other before
      rw [workEntries row inside other (before.trans colInside),
        invariant.cleared _ (swapInside row inside) other before, Equiv.swap_apply_def]
      by_cases atCol : row = col
      · have different : pivot ≠ other := by omega
        have apart : col ≠ other := by omega
        subst atCol
        simp [different, apart]
      · by_cases atPivot : row = pivot
        · have different : pivot ≠ other := by omega
          have apart : col ≠ other := by omega
          subst atPivot
          simp [atCol, different, apart]
        · simp [atCol, atPivot]
    · rw [workEntries col colInside col colInside, Equiv.swap_apply_left]
      exact nonzero
  · rw [missing, Outcome.error_bind]
    refine .inr ⟨rfl, ?_⟩
    intro row inside past
    exact zeros row ((searched row).mpr ⟨past, inside⟩)

theorem Invariant.normalize {matrix : DenseMatrix} {size col : Nat}
    {state : Elimination} (invariant : Invariant matrix size col state)
    (colInside : col < size) (pivot : state.work.get col col ≠ 0) :
    ∃ next, state.normalize col = .ok next ∧ Invariant matrix size col next ∧
      next.work.get col col = 1 := by
  obtain ⟨entries, stored⟩ := invariant.work.row_ok colInside
  unfold Elimination.normalize
  rw [invariant.work.entry_eq colInside colInside, Outcome.ok_bind,
    GF256.divide_eq_ok pivot, Outcome.ok_bind]
  by_cases one : 1 / state.work.get col col = 1
  · rw [if_pos one]
    refine ⟨state, rfl, invariant, ?_⟩
    rw [div_eq_one_iff_eq pivot] at one
    exact one.symm
  · rw [if_neg one, stored, Outcome.ok_bind]
    have scale : 1 / state.work.get col col ≠ 0 := one_div_ne_zero pivot
    refine ⟨_, rfl, ⟨invariant.work.scaleRow _ _, invariant.inverse.scaleRow _ _, ?_, ?_⟩, ?_⟩
    · intro vector image
      rw [← invariant.relates]
      have rowwise : ∀ row < size,
          (scaleRow state.work col (1 / state.work.get col col)).rowProduct row vector =
              (scaleRow state.inverse col (1 / state.work.get col col)).rowProduct row image ↔
            state.work.rowProduct row vector = state.inverse.rowProduct row image := by
        intro row inside
        rw [rowProduct_scaleRow invariant.work col _ inside,
          rowProduct_scaleRow invariant.inverse col _ inside]
        split
        · exact mul_right_inj' scale
        · exact Iff.rfl
      exact forall₂_congr rowwise
    · intro row inside other before
      rw [scaleRow, invariant.work.get_mapEntries _ inside (before.trans colInside),
        invariant.cleared row inside other before]
      by_cases atCol : row = col
      · have different : row ≠ other := by omega
        simp [different]
      · simp [atCol]
    · rw [scaleRow, invariant.work.get_mapEntries _ colInside colInside, if_pos rfl,
        mul_one_div_cancel pivot]

theorem checkRow_eq_ok {work : DenseMatrix} {size col row : Nat}
    (square : work.Square size) (colInside : col < size) (rowInside : row < size) :
    checkRow work col row = .ok () := by
  obtain ⟨source, sourceOk⟩ := square.row_ok colInside
  obtain ⟨target, targetOk⟩ := square.row_ok rowInside
  unfold checkRow
  rw [square.entry_eq rowInside colInside, Outcome.ok_bind]
  split
  · rfl
  · rw [sourceOk, Outcome.ok_bind, targetOk]
    rfl

theorem Invariant.clearColumn {matrix : DenseMatrix} {size col : Nat}
    {state : Elimination} (invariant : Invariant matrix size col state)
    (colInside : col < size) (pivot : state.work.get col col = 1) :
    ∃ next, state.clearColumn col = .ok next ∧ Invariant matrix size (col + 1) next := by
  have checks : (List.range state.work.rows).forM (checkRow state.work col) = .ok () := by
    apply Outcome.forM_eq_ok
    intro row member
    rw [invariant.work.rows_eq, List.mem_range] at member
    exact checkRow_eq_ok invariant.work colInside member
  unfold Elimination.clearColumn
  rw [checks, Outcome.ok_bind]
  let factor := fun row => state.work.get row col
  refine ⟨⟨addRow state.work col factor, addRow state.inverse col factor⟩, rfl,
    invariant.work.addRow col factor, invariant.inverse.addRow col factor, ?_, ?_⟩
  · intro vector image
    rw [← invariant.relates]
    have products : ∀ row < size,
        (addRow state.work col factor).rowProduct row vector =
            (addRow state.inverse col factor).rowProduct row image ↔
          if row = col then
            state.work.rowProduct row vector = state.inverse.rowProduct row image
          else
            state.work.rowProduct row vector +
                factor row * state.work.rowProduct col vector =
              state.inverse.rowProduct row image +
                factor row * state.inverse.rowProduct col image := by
      intro row inside
      rw [rowProduct_addRow invariant.work _ inside,
        rowProduct_addRow invariant.inverse _ inside]
      split <;> rfl
    -- the pivot row is the same before and after, so it can be subtracted again
    constructor
    · intro related row inside
      have source := (products col colInside).mp (related col colInside)
      rw [if_pos rfl] at source
      have target := (products row inside).mp (related row inside)
      split at target
      · exact target
      · rw [source] at target
        exact add_right_cancel target
    · intro related row inside
      apply (products row inside).mpr
      split
      · exact related row inside
      · rw [related row inside, related col colInside]
  · intro row inside other before
    have otherInside : other < size := by omega
    rw [addRow, invariant.work.get_mapEntries _ inside otherInside]
    simp only [factor]
    by_cases atCol : other = col
    · subst atCol
      by_cases same : row = other
      · rw [if_pos same, if_pos same, same, pivot]
      · rw [if_neg same, if_neg same, pivot, mul_one, GF256.add_self]
    · have earlier : other < col := by omega
      have zero : state.work.get col other = 0 := by
        rw [invariant.cleared col colInside other earlier, if_neg (by omega)]
      rw [zero, mul_zero, add_zero, ite_self]
      exact invariant.cleared row inside other earlier

/-- One column is treated, or the matrix sends a vector to zero. -/
theorem Invariant.step {matrix : DenseMatrix} {size col : Nat} {state : Elimination}
    (invariant : Invariant matrix size col state) (colInside : col < size) :
    (∃ next, state.step col = .ok next ∧ Invariant matrix size (col + 1) next) ∨
      (state.step col = .error (.singularMatrix size) ∧
        ∃ vector : Nat → GF256, (∃ index < size, vector index ≠ 0) ∧
          ∀ row < size, matrix.rowProduct row vector = 0) := by
  unfold Elimination.step
  rcases invariant.bringPivot colInside with
    ⟨swapped, swappedOk, swappedInvariant, nonzero⟩ | ⟨missing, zeros⟩
  · obtain ⟨scaled, scaledOk, scaledInvariant, one⟩ :=
      swappedInvariant.normalize colInside nonzero
    obtain ⟨next, nextOk, nextInvariant⟩ := scaledInvariant.clearColumn colInside one
    left
    rw [swappedOk, Outcome.ok_bind, scaledOk, Outcome.ok_bind]
    exact ⟨next, nextOk, nextInvariant⟩
  · right
    rw [missing, Outcome.error_bind]
    exact ⟨rfl, invariant.exists_kernel colInside zeros⟩

/-- The first columns are treated, or the matrix sends a vector to zero. -/
theorem Invariant.run {matrix : DenseMatrix} {size : Nat} {state : Elimination}
    (invariant : Invariant matrix size 0 state) (count : Nat) (inside : count ≤ size) :
    (∃ final, (List.range count).foldlM Elimination.step state = .ok final ∧
        Invariant matrix size count final) ∨
      ((List.range count).foldlM Elimination.step state = .error (.singularMatrix size) ∧
        ∃ vector : Nat → GF256, (∃ index < size, vector index ≠ 0) ∧
          ∀ row < size, matrix.rowProduct row vector = 0) := by
  induction count with
  | zero => exact .inl ⟨state, rfl, invariant⟩
  | succ count ih =>
      rw [List.range_succ, List.foldlM_append]
      rcases ih (Nat.le_of_succ_le inside) with
        ⟨middle, middleOk, middleInvariant⟩ | ⟨failed, kernel⟩
      · rw [middleOk, Outcome.ok_bind, List.foldlM_cons]
        rcases middleInvariant.step inside with
          ⟨next, nextOk, nextInvariant⟩ | ⟨failed, kernel⟩
        · rw [nextOk]
          exact .inl ⟨next, rfl, nextInvariant⟩
        · rw [failed]
          exact .inr ⟨rfl, kernel⟩
      · rw [failed]
        exact .inr ⟨rfl, kernel⟩

end Elimination

/-- A square matrix has an inverse, which solves every system with the matrix,
or it is found singular and sends a vector other than zero to zero. -/
theorem Square.invert_cases {matrix : DenseMatrix} {size : Nat}
    (square : matrix.Square size) :
    (∃ inverse, matrix.invert = .ok inverse ∧ inverse.Square size ∧
        ∀ vector image : Nat → GF256,
          (∀ row < size, matrix.rowProduct row vector = image row) ↔
            ∀ row < size, vector row = inverse.rowProduct row image) ∨
      (matrix.invert = .error (.singularMatrix size) ∧
        ∃ vector : Nat → GF256, (∃ index < size, vector index ≠ 0) ∧
          ∀ row < size, matrix.rowProduct row vector = 0) := by
  have isSquare : matrix.isSquare = true := by
    simp [DenseMatrix.isSquare, square.rows_eq, square.cols_eq]
  unfold invert
  rw [if_pos isSquare, square.rows_eq]
  dsimp only
  rcases (Elimination.Invariant.start square).run size le_rfl with
    ⟨final, finalOk, invariant⟩ | ⟨failed, kernel⟩
  · left
    rw [finalOk, Outcome.ok_bind]
    refine ⟨final.inverse, rfl, invariant.inverse, ?_⟩
    intro vector image
    rw [← invariant.relates]
    have solved : ∀ row < size, final.work.rowProduct row vector = vector row := by
      intro row inside
      rw [invariant.work.rowProduct_eq, Finset.sum_eq_single row]
      · rw [invariant.cleared row inside row inside, if_pos rfl, one_mul]
      · intro other member different
        rw [invariant.cleared row inside other (Finset.mem_range.mp member),
          if_neg different.symm, zero_mul]
      · intro absent
        exact absurd (Finset.mem_range.mpr inside) absent
    apply forall₂_congr
    intro row inside
    rw [solved row inside]
  · right
    rw [failed, Outcome.error_bind]
    exact ⟨rfl, kernel⟩

end LocalRepair.DenseMatrix

import Mathlib
import LocalRepair.DenseMatrix.Basic
import LocalRepair.Proofs.Outcome

/-!
# Rows of a matrix

A matrix that is put together from rows of one length holds these rows, and a
row of a well-formed matrix can be read and gathered from.
-/

namespace LocalRepair.DenseMatrix

theorem row_eq_ok {matrix : DenseMatrix} (wellFormed : matrix.WellFormed) {row : Nat}
    (inside : row < matrix.rows) :
    matrix.row row = .ok ((List.range matrix.cols).map (matrix.get row)) := by
  have stored : (row + 1) * matrix.cols ≤ matrix.data.size := by
    rw [wellFormed]
    exact Nat.mul_le_mul_right _ inside
  have width : (row + 1) * matrix.cols - row * matrix.cols = matrix.cols := by
    rw [Nat.add_mul, Nat.one_mul, Nat.add_sub_cancel_left]
  unfold DenseMatrix.row
  rw [if_pos stored]
  congr 1
  apply List.ext_getElem
  · have enough : matrix.cols ≤ matrix.data.size - row * matrix.cols := by omega
    simp [width, enough]
  · intro col leftInside rightInside
    have colInside : col < matrix.cols := by simpa using rightInside
    have within : row * matrix.cols + col < matrix.data.size := by
      rw [wellFormed]
      exact index_lt inside colInside
    simp [get, Array.getD, within]

theorem gather_eq_ok {matrix : DenseMatrix} (wellFormed : matrix.WellFormed) {row : Nat}
    (inside : row < matrix.rows) {cols : List Nat}
    (colsInside : ∀ col ∈ cols, col < matrix.cols) :
    matrix.gather row cols = .ok (cols.map (matrix.get row)) := by
  unfold gather
  rw [row_eq_ok wellFormed inside, Outcome.ok_bind]
  apply Outcome.mapM_eq_ok
  intro col member
  have colInside := colsInside col member
  simp [Error.stored, colInside]

theorem getElem?_flatten {rows : List (List GF256)} {cols : Nat}
    (lengths : ∀ entries ∈ rows, entries.length = cols) (row : Nat) {col : Nat}
    (colInside : col < cols) :
    rows.flatten[row * cols + col]? = rows[row]?.bind (·[col]?) := by
  induction rows generalizing row with
  | nil => simp
  | cons head tail ih =>
      have headLength := lengths head List.mem_cons_self
      have tailLengths : ∀ entries ∈ tail, entries.length = cols := fun entries member =>
        lengths entries (List.mem_cons_of_mem head member)
      rw [List.flatten_cons]
      cases row with
      | zero =>
          rw [Nat.zero_mul, Nat.zero_add, List.getElem?_append_left (by omega)]
          rfl
      | succ row =>
          have past : head.length ≤ (row + 1) * cols + col := by
            rw [headLength, Nat.add_mul, Nat.one_mul]
            omega
          have rest : (row + 1) * cols + col - head.length = row * cols + col := by
            rw [headLength, Nat.add_mul, Nat.one_mul]
            omega
          rw [List.getElem?_append_right past, rest, ih tailLengths, List.getElem?_cons_succ]

section

variable {rows : List (List GF256)} {cols : Nat}

theorem length_flatten_of_lengths (lengths : ∀ entries ∈ rows, entries.length = cols) :
    rows.flatten.length = rows.length * cols := by
  induction rows with
  | nil => simp
  | cons head tail ih =>
      have headLength := lengths head List.mem_cons_self
      rw [List.flatten_cons, List.length_append, headLength, List.length_cons,
        ih fun entries member => lengths entries (List.mem_cons_of_mem head member),
        Nat.add_mul, Nat.one_mul, Nat.add_comm]

theorem wellFormed_flatten (lengths : ∀ entries ∈ rows, entries.length = cols) :
    WellFormed ⟨rows.length, cols, rows.flatten.toArray⟩ := by
  simpa [WellFormed] using length_flatten_of_lengths lengths

theorem get_flatten (lengths : ∀ entries ∈ rows, entries.length = cols) {row col : Nat}
    (colInside : col < cols) :
    get ⟨rows.length, cols, rows.flatten.toArray⟩ row col =
      (rows.getD row []).getD col 0 := by
  have entry := getElem?_flatten lengths row colInside
  rw [get, Array.getD_eq_getD_getElem?, List.getElem?_toArray, entry,
    List.getD_eq_getElem?_getD, List.getD_eq_getElem?_getD]
  cases rows[row]? with
  | none => rfl
  | some entries => rfl

theorem ofRows?_eq_some (square : rows.length = cols)
    (lengths : ∀ entries ∈ rows, entries.length = cols) :
    ofRows? rows = some ⟨rows.length, cols, rows.flatten.toArray⟩ := by
  have width : (rows.head?.map List.length).getD 0 = cols := by
    cases rows with
    | nil => exact square
    | cons head tail => exact lengths head List.mem_cons_self
  have same : rows.all (·.length = cols) = true := by
    rw [List.all_eq_true]
    intro entries member
    exact decide_eq_true (lengths entries member)
  simp only [ofRows?, width]
  rw [if_pos same]

end

end LocalRepair.DenseMatrix

import LocalRepair.GF256

/-!
# Matrices over the field

A matrix stores its entries row by row.  Entry `(row, col)` is the one at `row * cols + col`, and
what is checked on access is only that so many entries are stored, since a matrix may be given
with fewer or more than `rows * cols` of them.  A matrix with exactly that many is `WellFormed`;
`get` views every matrix as a function, with zero beyond the stored entries.
-/

namespace LocalRepair

/-- A matrix by its dimensions and its entries in row-major order. -/
structure DenseMatrix where
  rows : Nat
  cols : Nat
  data : Array GF256
deriving DecidableEq, Repr

namespace DenseMatrix

/-- The matrix holds exactly one entry for each row and column. -/
def WellFormed (matrix : DenseMatrix) : Prop :=
  matrix.data.size = matrix.rows * matrix.cols

/-- The entry at a row and a column, zero where none is stored. -/
def get (matrix : DenseMatrix) (row col : Nat) : GF256 :=
  matrix.data.getD (row * matrix.cols + col) 0

def ofFn (rows cols : Nat) (entry : Nat → Nat → GF256) : DenseMatrix where
  rows := rows
  cols := cols
  data := Array.ofFn fun index : Fin (rows * cols) => entry (index / cols) (index % cols)

theorem index_lt {rows cols row col : Nat} (rowInside : row < rows) (colInside : col < cols) :
    row * cols + col < rows * cols :=
  calc
    row * cols + col < (row + 1) * cols := by
      rw [Nat.add_mul, Nat.one_mul]
      exact Nat.add_lt_add_left colInside _
    _ ≤ rows * cols := Nat.mul_le_mul_right cols rowInside

theorem index_div {cols col : Nat} (row : Nat) (colInside : col < cols) :
    (row * cols + col) / cols = row := by
  rw [Nat.add_comm, Nat.add_mul_div_right _ _ (Nat.zero_lt_of_lt colInside),
    Nat.div_eq_of_lt colInside, Nat.zero_add]

theorem index_mod {cols col : Nat} (row : Nat) (colInside : col < cols) :
    (row * cols + col) % cols = col := by
  rw [Nat.add_comm, Nat.add_mul_mod_self_right, Nat.mod_eq_of_lt colInside]

@[simp]
theorem rows_ofFn (rows cols : Nat) (entry : Nat → Nat → GF256) :
    (ofFn rows cols entry).rows = rows := rfl

@[simp]
theorem cols_ofFn (rows cols : Nat) (entry : Nat → Nat → GF256) :
    (ofFn rows cols entry).cols = cols := rfl

theorem wellFormed_ofFn (rows cols : Nat) (entry : Nat → Nat → GF256) :
    (ofFn rows cols entry).WellFormed := by
  simp [WellFormed, ofFn]

/-- The matrix of a function is that function within its dimensions. -/
theorem get_ofFn {rows cols row col : Nat} (entry : Nat → Nat → GF256)
    (rowInside : row < rows) (colInside : col < cols) :
    (ofFn rows cols entry).get row col = entry row col := by
  have stored : row * cols + col < rows * cols := index_lt rowInside colInside
  simp [get, ofFn, Array.getD, stored, index_div row colInside, index_mod row colInside]

def zeros (rows cols : Nat) : DenseMatrix :=
  ofFn rows cols fun _ _ => 0

def identity (size : Nat) : DenseMatrix :=
  ofFn size size fun row col => if row = col then 1 else 0

/-- The matrix with the given rows, which exists if they have one length.  Without rows there are
no columns either. -/
def ofRows? (rows : List (List GF256)) : Option DenseMatrix :=
  let cols := (rows.head?.map List.length).getD 0
  if rows.all (·.length = cols) then some ⟨rows.length, cols, rows.flatten.toArray⟩ else none

def isSquare (matrix : DenseMatrix) : Bool :=
  matrix.rows = matrix.cols

def entry (matrix : DenseMatrix) (row col : Nat) : Except Error GF256 :=
  Error.stored matrix.data[row * matrix.cols + col]?

/-- The entries of a row, all of which must be stored. -/
def row (matrix : DenseMatrix) (row : Nat) : Except Error (List GF256) :=
  if (row + 1) * matrix.cols ≤ matrix.data.size then
    .ok (matrix.data.extract (row * matrix.cols) ((row + 1) * matrix.cols)).toList
  else
    .error .outOfBounds

/-- The entries of a row at the given columns. -/
def gather (matrix : DenseMatrix) (row : Nat) (cols : List Nat) : Except Error (List GF256) := do
  let entries ← matrix.row row
  cols.mapM fun col => Error.stored entries[col]?

def set (matrix : DenseMatrix) (row col : Nat) (value : GF256) : Except Error DenseMatrix :=
  let index := row * matrix.cols + col
  if index < matrix.data.size then
    .ok { matrix with data := matrix.data.setIfInBounds index value }
  else
    .error .outOfBounds

/-- Replaces every stored entry by a function of its row, its column and its value.  Without columns
no entry is stored. -/
def mapEntries (matrix : DenseMatrix) (update : Nat → Nat → GF256 → GF256) : DenseMatrix :=
  if matrix.cols = 0 then matrix
  else
    { matrix with
      data := matrix.data.mapIdx fun index value =>
        update (index / matrix.cols) (index % matrix.cols) value }

@[simp]
theorem rows_mapEntries (matrix : DenseMatrix) (update : Nat → Nat → GF256 → GF256) :
    (matrix.mapEntries update).rows = matrix.rows := by
  unfold mapEntries
  split <;> rfl

@[simp]
theorem cols_mapEntries (matrix : DenseMatrix) (update : Nat → Nat → GF256 → GF256) :
    (matrix.mapEntries update).cols = matrix.cols := by
  unfold mapEntries
  split <;> rfl

theorem wellFormed_mapEntries {matrix : DenseMatrix} (wellFormed : matrix.WellFormed)
    (update : Nat → Nat → GF256 → GF256) : (matrix.mapEntries update).WellFormed := by
  unfold mapEntries
  split
  · exact wellFormed
  · simpa [WellFormed] using wellFormed

/-- Every entry of a well-formed matrix is rewritten from its row, its column and its value. -/
theorem get_mapEntries {matrix : DenseMatrix} (wellFormed : matrix.WellFormed)
    (update : Nat → Nat → GF256 → GF256) {row col : Nat}
    (rowInside : row < matrix.rows) (colInside : col < matrix.cols) :
    (matrix.mapEntries update).get row col = update row col (matrix.get row col) := by
  have stored : row * matrix.cols + col < matrix.data.size := by
    rw [wellFormed]
    exact index_lt rowInside colInside
  have someCols : matrix.cols ≠ 0 := by omega
  simp [get, mapEntries, someCols, Array.getD, stored, index_div row colInside,
    index_mod row colInside]

/-- The matrix with two rows exchanged; of two different rows both must be stored. -/
def swapRows (matrix : DenseMatrix) (first second : Nat) : Except Error DenseMatrix :=
  if first = second then .ok matrix
  else if (max first second + 1) * matrix.cols ≤ matrix.data.size then
    .ok (matrix.mapEntries fun row col value =>
      if row = first then matrix.get second col
      else if row = second then matrix.get first col
      else value)
  else
    .error .outOfBounds

/-- The first `count` pieces of `size` entries; a piece that is not complete ends the list. -/
def pieces (size : Nat) : Nat → List GF256 → List (List GF256)
  | 0, _ => []
  | count + 1, entries =>
    if size ≤ entries.length then
      entries.take size :: pieces size count (entries.drop size)
    else
      []

/-- The complete rows among the stored entries.  A matrix without columns shows each entry that it
stores nevertheless as a row. -/
def toRows (matrix : DenseMatrix) : List (List GF256) :=
  pieces (max matrix.cols 1) matrix.rows matrix.data.toList

/-- A number at the right end of a field three characters wide. -/
def paddedEntry (value : GF256) : String :=
  let digits := toString value.toNat
  "".pushn ' ' (3 - digits.length) ++ digits

/-- A line with the dimensions, followed by a line for each row. -/
def text (matrix : DenseMatrix) : String :=
  let lines := matrix.toRows.map fun entries =>
    "  [" ++ " ".intercalate (entries.map paddedEntry) ++ "]\n"
  s!"Matrix {matrix.rows}x{matrix.cols}\n" ++ String.join lines

end DenseMatrix

end LocalRepair

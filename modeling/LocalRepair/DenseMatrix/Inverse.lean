import LocalRepair.DenseMatrix.Basic

/-!
# Inversion by elimination

Gauss-Jordan elimination turns the matrix into the identity one column at a time and applies every
step to a second matrix, which begins as the identity and ends as the inverse.  A column takes
three steps: bring the first non-zero entry at or below the diagonal onto it, scale its row so that
it becomes one, and subtract multiples of that row from all others.
-/

namespace LocalRepair.DenseMatrix

/-- The matrix under elimination and the product of the steps so far. -/
structure Elimination where
  work : DenseMatrix
  inverse : DenseMatrix
deriving DecidableEq, Repr

/-- The first of the given rows with a non-zero entry in a column. -/
def findPivot (work : DenseMatrix) (col : Nat) : List Nat → Except Error Nat
  | [] => .error (.singularMatrix work.rows)
  | row :: rest => do
    let value ← work.entry row col
    if value = 0 then findPivot work col rest else pure row

def scaleRow (matrix : DenseMatrix) (target : Nat) (factor : GF256) : DenseMatrix :=
  matrix.mapEntries fun row _ value => if row = target then value * factor else value

/-- A multiple of one row, as `factor` says for each row, added to all others. -/
def addRow (matrix : DenseMatrix) (source : Nat) (factor : Nat → GF256) : DenseMatrix :=
  matrix.mapEntries fun row col value =>
    if row = source then value else value + factor row * matrix.get source col

namespace Elimination

/-- Brings a non-zero entry onto the diagonal. -/
def bringPivot (state : Elimination) (col : Nat) : Except Error Elimination := do
  let pivot ← findPivot state.work col (List.range' col (state.work.rows - col))
  pure ⟨← state.work.swapRows col pivot, ← state.inverse.swapRows col pivot⟩

/-- Makes the entry on the diagonal one. -/
def normalize (state : Elimination) (col : Nat) : Except Error Elimination := do
  let scale ← GF256.divide 1 (← state.work.entry col col)
  if scale = 1 then
    pure state
  else
    let _ ← state.work.row col
    pure ⟨scaleRow state.work col scale, scaleRow state.inverse col scale⟩

/-- A row from which a multiple of the pivot row is to be subtracted must be stored, and so must
the pivot row. -/
def checkRow (work : DenseMatrix) (col row : Nat) : Except Error Unit := do
  let factor ← work.entry row col
  if row = col ∨ factor = 0 then
    pure ()
  else
    let _ ← work.row col
    let _ ← work.row row
    pure ()

/-- Makes all entries off the diagonal zero. -/
def clearColumn (state : Elimination) (col : Nat) : Except Error Elimination := do
  (List.range state.work.rows).forM (checkRow state.work col)
  let factor := fun row => state.work.get row col
  pure ⟨addRow state.work col factor, addRow state.inverse col factor⟩

def step (state : Elimination) (col : Nat) : Except Error Elimination := do
  let state ← state.bringPivot col
  let state ← state.normalize col
  state.clearColumn col

end Elimination

/-- The inverse of a square matrix; any other matrix counts as singular. -/
def invert (matrix : DenseMatrix) : Except Error DenseMatrix := do
  if matrix.isSquare then
    let start : Elimination := ⟨matrix, identity matrix.rows⟩
    let final ← (List.range matrix.rows).foldlM Elimination.step start
    pure final.inverse
  else
    .error (.singularMatrix matrix.rows)

end LocalRepair.DenseMatrix

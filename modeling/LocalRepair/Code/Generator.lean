import LocalRepair.Code.Shape
import LocalRepair.DenseMatrix.Basic

/-!
# The generator matrix

Row `row` of the generator holds the coefficients with which block `row` of a stripe is a sum of
the data blocks.  A data block is itself, a local parity is the sum of its group, and the entry of
a global parity at column `col` is the inverse of `row + col` in the field, where the indices
stand for the elements with these bytes.  Row and column are different there, so the inverse
exists.
-/

namespace LocalRepair.Shape

def generatorEntry (shape : Shape) (row col : Nat) : Except Error GF256 :=
  if row < shape.k then
    .ok (if row = col then 1 else 0)
  else if row < shape.k + shape.l then
    .ok (if col / shape.b = row - shape.k then 1 else 0)
  else
    GF256.divide 1 (GF256.ofNat (row ^^^ col))

/-- The generator of a code, with a row for each block and a column for each data block. -/
def generator (shape : Shape) : Except Error DenseMatrix := do
  shape.check
  let rows ← (List.range shape.n).mapM fun row =>
    (List.range shape.k).mapM (shape.generatorEntry row)
  pure ⟨shape.n, shape.k, rows.flatten.toArray⟩

end LocalRepair.Shape

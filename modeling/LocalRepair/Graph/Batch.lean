import LocalRepair.Graph.Schedule
import LocalRepair.DenseMatrix.Basic

/-!
# Batches

Lowering turns every scheduled unit into one batch: a coefficient matrix with a row for each target
of the unit and a column for each index that the unit reads.  An index that a node reads several
times has the sum of its coefficients.
-/

namespace LocalRepair

/-- The indices written, one for each row, the indices read, one for each column, and the
coefficients between them. -/
structure Batch where
  targets : List Nat
  children : List Nat
  coefficients : DenseMatrix
deriving DecidableEq, Repr

namespace Batch

def ofUnit (unit : List Node) : Batch :=
  let children := (unit.flatMap Node.sources).eraseDups
  let rows := unit.map fun node => children.map node.coefficientOf
  { targets := unit.map Node.target
    children := children
    coefficients := ⟨unit.length, children.length, rows.flatten.toArray⟩ }

end Batch

/-- One batch for each unit, in an order in which every batch follows those whose targets it
reads. -/
def Graph.lower (graph : Graph) : Except Error (List Batch) := do
  pure ((← graph.scheduledUnits).map Batch.ofUnit)

end LocalRepair

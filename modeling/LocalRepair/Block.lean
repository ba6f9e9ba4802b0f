import LocalRepair.DenseMatrix.Basic

/-!
# Blocks and their combinations

A block is a sequence of field elements, one per byte.  Blocks of one length are added and
multiplied by field elements position by position, and a coefficient matrix turns a list of
blocks into one combination for each of its rows.
-/

namespace LocalRepair

abbrev Block := List GF256

namespace Block

/-- The block of the given size with all bytes zero. -/
def zero (size : Nat) : Block :=
  List.replicate size 0

/-- Adds a multiple of a block to a sum.  The coefficients zero and one need no product. -/
def accumulate (sum : Block) (coefficient : GF256) (block : Block) : Block :=
  if coefficient = 0 then sum
  else if coefficient = 1 then List.zipWith (· + ·) sum block
  else List.zipWith (fun total byte => total + byte * coefficient) sum block

/-- The sum of blocks of one size, each times its coefficient. -/
def combine (size : Nat) (blocks : List Block) (coefficients : List GF256) : Block :=
  (blocks.zip coefficients).foldl (fun sum term => accumulate sum term.2 term.1) (zero size)

end Block

/-- Blocks that were to take combinations of other blocks, and how that ended. -/
structure Combined where
  outputs : List Block
  outcome : Except Error Unit

/-- Replaces blocks by the combinations of the inputs for the rows of the coefficients from the
given one on.  It ends at the first row that the coefficients do not store: the block for that row
is left zero, and the blocks behind it stay as they are. -/
def combineRows (size : Nat) (inputs : List Block) (coefficients : DenseMatrix) :
    Nat → List Block → Combined
  | _, [] => ⟨[], .ok ()⟩
  | row, _ :: rest =>
    match coefficients.row row with
    | .error error => ⟨Block.zero size :: rest, .error error⟩
    | .ok terms =>
      let behind := combineRows size inputs coefficients (row + 1) rest
      ⟨Block.combine size inputs terms :: behind.outputs, behind.outcome⟩

/-- Replaces `outputs` by the combinations of the inputs, one for each row of the coefficients.
There must be an output for each row and an input for each column, and the inputs must have one
length, or else the outputs stay as they are.  The combinations do not depend on what the outputs
held before. -/
def multiplyAccumulate (outputs inputs : List Block) (coefficients : DenseMatrix) : Combined :=
  if outputs.length ≠ coefficients.rows then
    ⟨outputs, .error (.sizeMismatch coefficients.rows outputs.length)⟩
  else if inputs.length ≠ coefficients.cols then
    ⟨outputs, .error (.sizeMismatch coefficients.cols inputs.length)⟩
  else
    let size := (inputs.head?.map List.length).getD 0
    match inputs.find? (·.length ≠ size) with
    | some block => ⟨outputs, .error (.sizeMismatch size block.length)⟩
    | none => combineRows size inputs coefficients 0 outputs

end LocalRepair

import LocalRepair.Graph.Basic
import LocalRepair.Scheme.Basic

/-!
# Recovery of a single block

When one block is lost and all others are at hand, one sum recovers it.  A data block is the sum of
the other data blocks of its local group and the local parity; a local parity is the sum of its
group; a global parity is encoded again from all data blocks, with a generator that is computed
for it.
-/

namespace LocalRepair.Scheme

/-- The graph that computes a block as the plain sum of others. -/
def sumGraph (target : Nat) (sources : List Nat) : Except Error Graph :=
  Graph.empty.join target sources (sources.map fun _ => 1)

/-- The graph that computes a data block from the rest of its local group. -/
def localRepair (scheme : Scheme) (block : Nat) : Except Error Graph :=
  let shape := scheme.shape
  let group := block / shape.b
  sumGraph block ((shape.groupData group).filter (· ≠ block) ++ [shape.localParity group])

/-- The graph that computes a block from as few others as the code allows. -/
def singleRepair (scheme : Scheme) (block : Nat) : Except Error Graph := do
  let shape := scheme.shape
  if block < shape.k then
    scheme.localRepair block
  else if block < shape.k + shape.l then
    sumGraph block (shape.groupData (block - shape.k))
  else
    let generator ← scheme.freshGenerator
    Graph.empty.join block (List.range shape.k) (← generator.row block)

end LocalRepair.Scheme

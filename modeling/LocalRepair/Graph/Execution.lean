import LocalRepair.Graph.Batch
import LocalRepair.Stripe

/-!
# Running batches on a stripe

Batches read and write blocks.  Indices below the width of the stripe are blocks of the stripe; an
index at or above it is virtual, and its block lives in a scratch area that is dropped after the
run.  A run stops at the first failure, and what was written before it stays written.
-/

namespace LocalRepair

/-- The stripe and the virtual blocks of a run. -/
structure Workspace where
  stripe : Stripe
  scratch : Std.TreeMap Nat Block

namespace Workspace

/-- The block at an index, in a stripe of width `n`. -/
def get? (workspace : Workspace) (n index : Nat) : Option Block :=
  if index < n then workspace.stripe.get? index else workspace.scratch[index]?

/-- Writes a block at an index, in a stripe of width `n`. -/
def put (workspace : Workspace) (n index : Nat) (block : Block) : Except Error Workspace :=
  if index < n then do
    pure { workspace with stripe := ← workspace.stripe.insert index block }
  else
    .ok { workspace with scratch := workspace.scratch.insert index block }

end Workspace

/-- A stripe after a run, and how the run ended. -/
structure Run where
  stripe : Stripe
  outcome : Except Error Unit

namespace Batch

def inputs (batch : Batch) (n : Nat) (workspace : Workspace) : Except Error (List Block) :=
  batch.children.mapM fun child =>
    match workspace.get? n child with
    | some block => .ok block
    | none => .error (.missingBlock child)

/-- The blocks that a batch computes, with the indices to write them to. -/
def results (batch : Batch) (n : Nat) (workspace : Workspace) :
    Except Error (List (Nat × Block)) := do
  let inputs ← batch.inputs n workspace
  let outputs := batch.targets.map fun _ => []
  let combined := multiplyAccumulate outputs inputs batch.coefficients
  combined.outcome
  pure (batch.targets.zip combined.outputs)

/-- Writes blocks one after the other, up to the first that is refused. -/
def writeAll (n : Nat) :
    List (Nat × Block) → Workspace → Except Error Unit × Workspace
  | [], workspace => (.ok (), workspace)
  | (index, block) :: rest, workspace =>
    match workspace.put n index block with
    | .ok written => writeAll n rest written
    | .error error => (.error error, workspace)

/-- Runs batches one after the other, up to the first failure. -/
def runAll (n : Nat) : List Batch → Workspace → Except Error Unit × Workspace
  | [], workspace => (.ok (), workspace)
  | batch :: rest, workspace =>
    match batch.results n workspace with
    | .error error => (.error error, workspace)
    | .ok results =>
      match writeAll n results workspace with
      | (.ok (), written) => runAll n rest written
      | (.error error, written) => (.error error, written)

end Batch

namespace Stripe

/-- Runs batches on a stripe of width `n`. -/
def runBatches (stripe : Stripe) (n : Nat) (batches : List Batch) : Run :=
  let (outcome, workspace) := Batch.runAll n batches ⟨stripe, ∅⟩
  ⟨workspace.stripe, outcome⟩

/-- Lowers a graph and runs its batches on a stripe of width `n`. -/
def runGraph (stripe : Stripe) (n : Nat) (graph : Graph) : Run :=
  match graph.lower with
  | .ok batches => stripe.runBatches n batches
  | .error error => ⟨stripe, .error error⟩

end Stripe

end LocalRepair

import LocalRepair.Analysis.ReadCost
import LocalRepair.Recovery.Plan

/-!
# Measured averages

The cost of a scheme is measured by decoding each data block on its own.  Under repair every other
block is available; under maintenance every block outside the block's fault domain is.
-/

namespace LocalRepair

/-- What decoding one data block reads. -/
structure DecodeReads where
  blocks : Nat
  /-- The number of domains read from, besides the one of the block. -/
  domains : Nat
  bandwidth : Float

structure AverageCost where
  approach : Approach
  blocksRead : Float
  domainsTouched : Float
  normalizedBandwidth : Float

namespace Scheme

/-- The blocks that are available when a data block of the domain at a position is decoded. -/
def measuredAvailable (scheme : Scheme) (block position : Nat) : List Nat :=
  let offline :=
    match scheme.approach with
    | .repair => [block]
    | .maintenance => scheme.domains.getD position []
  (List.range scheme.n).filter (· ∉ offline)

/-- The position of a block's domain and the plan that decodes it for measurement. -/
def measuredPlan (scheme : Scheme) (block : Nat) : Except Error (Nat × DecodePlan) := do
  match domainPosition? scheme.domains block with
  | none => .error (.request (.unplaced block))
  | some position =>
    pure (position, ← scheme.planDecode (scheme.measuredAvailable block position) [block])

/-- The plans that decode the data blocks, each with the position of the block's domain. -/
def measuredPlans (scheme : Scheme) : Except Error (List (Nat × DecodePlan)) :=
  (List.range scheme.k).mapM scheme.measuredPlan

/-- What a plan for a block of the domain at a position reads. -/
def planReads (scheme : Scheme) (position : Nat) (plan : DecodePlan) : DecodeReads :=
  let cost := scheme.planCost plan.graph
  let touched := ReadCost.touchedDomains scheme.domains cost.reads
  ⟨cost.blocksRead, (touched.filter (· ≠ position)).length, cost.normalizedBandwidth⟩

def averageOf (scheme : Scheme) (plans : List (Nat × DecodePlan)) : AverageCost :=
  let reads := plans.map fun (position, plan) => scheme.planReads position plan
  let count := Float.ofNat scheme.k
  { approach := scheme.approach
    blocksRead := Float.ofNat (total DecodeReads.blocks reads) / count
    domainsTouched := Float.ofNat (total DecodeReads.domains reads) / count
    normalizedBandwidth := (reads.map DecodeReads.bandwidth).foldl (· + ·) 0 / count }

def averageCost (scheme : Scheme) : Except Error AverageCost :=
  scheme.measuredPlans.map scheme.averageOf

end Scheme

end LocalRepair

import LocalRepair.Code.Shape

/-!
# Placement in fault domains

The blocks of a stripe are divided among fault domains, whose blocks become unavailable together.
A flat placement gives every block a domain of its own, and two fixed placements are written down
for the (10, 2, 2) code.  The tunable placement takes up to `eta` clusters of `g + 1` blocks out of
each local group, a domain each, and spreads what is left so that a domain meets no group twice.
-/

namespace LocalRepair

/-- The blocks that become unavailable together. -/
abbrev FaultDomain := List Nat

/-- The number of clusters of `g + 1` blocks that cover a local group of `b` data blocks. -/
def maxEta (b g : Nat) : Nat :=
  (b + g) / (g + 1)

/-- Whether the clusters cover each local group and leave room for its parity in the last one. -/
def parityInCluster (b g eta : Nat) : Bool :=
  b ≤ eta * (g + 1) && b % (g + 1) ≠ 0

/-- The ways to divide the blocks of a stripe among fault domains. -/
inductive Placement where
  | flat (n : Nat)
  | fixed (domains : List FaultDomain)
  /-- Clusters are taken out of each local group as the granularity `eta` says. -/
  | tunable (shape : Shape) (eta : Nat)
deriving DecidableEq, Repr

namespace Placement

/-- The fixed placement of the (10, 2, 2) code that favours repair. -/
def repairOptimized : Placement :=
  .fixed [[0, 1, 2], [3, 4, 10], [5, 6, 7], [8, 9, 11], [12, 13]]

/-- The fixed placement of the (10, 2, 2) code that favours maintenance. -/
def maintenanceOptimized : Placement :=
  .fixed [[0, 5], [1, 6], [2, 7], [3, 8], [4, 9], [10, 11], [12, 13]]

/-- A cluster of a local group: its next `g + 1` data blocks, or what is left of the group and the
local parity. -/
def cluster (shape : Shape) (group position : Nat) : FaultDomain :=
  let first := group * shape.b + position * (shape.g + 1)
  let past := min (first + (shape.g + 1)) ((group + 1) * shape.b)
  let data := List.range' first (past - first)
  if data.length < shape.g + 1 then data ++ [shape.localParity group] else data

def clusters (shape : Shape) (eta : Nat) : List FaultDomain :=
  (List.range shape.l).flatMap fun group =>
    (List.range (min eta (maxEta shape.b shape.g))).map (cluster shape group)

/-- The domains of the data blocks outside the clusters, each with one block of every local
group. -/
def stripes (shape : Shape) (eta : Nat) : List FaultDomain :=
  let clustered := eta * (shape.g + 1)
  (List.range (shape.b - clustered)).map fun offset =>
    (List.range shape.l).map fun group => group * shape.b + clustered + offset

/-- The domain of the local parities, unless the clusters hold them. -/
def parityDomains (shape : Shape) (eta : Nat) : List FaultDomain :=
  if parityInCluster shape.b shape.g eta then []
  else [(List.range shape.l).map shape.localParity]

def domains : Placement → List FaultDomain
  | .flat n => (List.range n).map fun block => [block]
  | .fixed domains => domains
  | .tunable shape eta =>
    clusters shape eta ++ stripes shape eta ++ parityDomains shape eta ++ [shape.globalParities]

/-- The fault domains in their order.  Without local groups there is nothing that a tunable
placement could divide the data by. -/
def domains? (placement : Placement) : Option (List FaultDomain) :=
  match placement with
  | .tunable shape _ => if shape.l = 0 then none else some placement.domains
  | _ => some placement.domains

end Placement

/-- The position of the first fault domain that holds a block. -/
def domainPosition? (domains : List FaultDomain) (block : Nat) : Option Nat :=
  domains.findIdx? (block ∈ ·)

/-- Checks that blocks lie below `n` and differ from each other and from those in `seen`. -/
def checkBlocks (n : Nat) : List Nat → List Nat → Except Error Unit
  | _, [] => .ok ()
  | seen, block :: rest =>
    if n ≤ block then .error (.config (.blockOutside block n))
    else if block ∈ seen then .error (.config (.blockRepeated block))
    else checkBlocks n (block :: seen) rest

/-- Refuses domains that do not hold each block below `n` exactly once.  A block that is out of
range or repeated is reported before one that is left out. -/
def checkPartition (domains : List FaultDomain) (n : Nat) : Except Error Unit := do
  let blocks := domains.flatten
  checkBlocks n [] blocks
  match (List.range n).find? (· ∉ blocks) with
  | some block => .error (.config (.blockOmitted block))
  | none => .ok ()

end LocalRepair

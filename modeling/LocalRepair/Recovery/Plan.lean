import LocalRepair.Recovery.Domain
import LocalRepair.Recovery.Single

/-!
# Decode plans

A decode request names one failed block and the blocks that are available.  Under repair the block
alone counts as lost.  Under maintenance its whole fault domain does: no other member may be
available, parities are not decoded, and a block is recovered within its local group unless the
domain takes out more of that group.
-/

namespace LocalRepair

inductive Strategy where
  /-- One sum recovers the only lost block. -/
  | singleRepair
  /-- The domain is offline, but the block's local group loses nothing else. -/
  | localMaintenance
  /-- The domain is offline and takes out more of the block's local group. -/
  | globalMaintenance
deriving DecidableEq, Repr

def Strategy.label : Strategy → String
  | .singleRepair => "single_repair"
  | .localMaintenance => "local_maintenance"
  | .globalMaintenance => "global_maintenance"

/-- A graph that recovers a block, and the strategy behind it. -/
structure DecodePlan where
  strategy : Strategy
  graph : Graph
deriving DecidableEq, Repr

namespace Scheme

/-- The members of a domain, other than the failed block, that are available. -/
def aliveMembers (domain available : List Nat) (failed : Nat) : List Nat :=
  domain.filter fun block => block ≠ failed && block ∈ available

/-- Whether a domain takes out another member of the local group of a data block. -/
def losesSibling (scheme : Scheme) (domain : List Nat) (failed : Nat) : Bool :=
  domain.any fun block =>
    block ≠ failed && scheme.shape.localGroup? block = some (failed / scheme.shape.b)

/-- The plan for a block whose fault domain is offline. -/
def planMaintenance (scheme : Scheme) (available : List Nat) (failed : Nat) :
    Except Error DecodePlan := do
  match scheme.domains.find? (failed ∈ ·) with
  | none => .error (.request (.unplaced failed))
  | some domain =>
    let alive := aliveMembers domain available failed
    Error.ensure (alive = []) (.maintenancePrecondition failed alive)
    Error.ensure (failed < scheme.k) (.parityMaintenance failed)
    if scheme.losesSibling domain failed then
      pure ⟨.globalMaintenance, ← scheme.recoverTargets domain [failed]⟩
    else
      pure ⟨.localMaintenance, ← scheme.localRepair failed⟩

/-- The plan for one failed block under the approach of the scheme. -/
def planBlock (scheme : Scheme) (available : List Nat) (failed : Nat) :
    Except Error DecodePlan := do
  match (failed :: available).find? (scheme.n ≤ ·) with
  | some block => .error (.request (.blockOutside block scheme.n))
  | none =>
    match scheme.approach with
    | .repair => pure ⟨.singleRepair, ← scheme.singleRepair failed⟩
    | .maintenance => scheme.planMaintenance available failed

/-- The plan for a decode request, which must name exactly one failed block. -/
def planDecode (scheme : Scheme) (available failed : List Nat) : Except Error DecodePlan :=
  match failed with
  | [] => .error (.request .noFailedBlock)
  | [block] => scheme.planBlock available block
  | _ => .error (.multipleFailures failed)

def decode (scheme : Scheme) (available failed : List Nat) : Except Error Graph := do
  pure (← scheme.planDecode available failed).graph

/-- Whether a data block can be decoded as part of its offline domain: no other member of the
domain is available. -/
def maintenanceAllowed (scheme : Scheme) (available : List Nat) (block : Nat) : Bool :=
  block < scheme.k &&
    match scheme.domains.find? (block ∈ ·) with
    | none => false
    | some domain => (aliveMembers domain available block).isEmpty

end Scheme

end LocalRepair

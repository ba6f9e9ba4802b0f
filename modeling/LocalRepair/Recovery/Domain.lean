import LocalRepair.Graph.Basic
import LocalRepair.Recovery.System

/-!
# Recovery of a fault domain

The graph that recovers data blocks of an offline domain has a virtual node for each equation of
the recovery system, numbered from the width of the stripe upward, and expresses a lost block
over the virtual nodes by its row of the inverted system.
-/

namespace LocalRepair.Scheme

def invertSystem (domain : List Nat) (system : RecoverySystem) : Except Error DenseMatrix := do
  let matrix ← system.matrix
  match matrix.invert with
  | .error (.singularMatrix size) => .error (.recovery (.singular domain size))
  | result => result

/-- Adds the node that expresses a lost block over the virtual nodes. -/
def joinTarget (domain : List Nat) (system : RecoverySystem) (inverse : DenseMatrix)
    (virtuals : List Nat) (graph : Graph) (target : Nat) : Except Error Graph := do
  match system.lost.findIdx? (· = target) with
  | none => .error (.request (.notLost target domain))
  | some position => graph.join target virtuals (← inverse.row position)

/-- The graph that recovers `targets`, all of them data blocks of the domain. -/
def recoverTargets (scheme : Scheme) (domain targets : List Nat) : Except Error Graph := do
  let system ← scheme.recoverySystem domain
  let inverse ← invertSystem domain system
  let virtuals := List.range' scheme.n system.lost.length
  let graph ← (virtuals.zip system.equations).foldlM
    (fun graph (virtual, equation) =>
      graph.join virtual equation.sources equation.coefficients) Graph.empty
  targets.foldlM (joinTarget domain system inverse virtuals) graph

/-- The graph that recovers all data blocks of the domain at a position. -/
def recoverDomain (scheme : Scheme) (position : Nat) : Except Error Graph :=
  match scheme.domains[position]? with
  | none => .error (.request (.domainOutside position scheme.domains.length))
  | some domain =>
    let lost := domain.filter (· < scheme.k)
    if lost = [] then .error (.request (.domainWithoutData position))
    else scheme.recoverTargets domain lost

end LocalRepair.Scheme

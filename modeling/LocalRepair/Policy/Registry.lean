import LocalRepair.Scheme.Basic

/-!
# Policies

A policy names a scheme: its kind by class name, its dimensions and the texts of its parameters.
A registry is a list of policies with different ids and known class names, so a look-up finds at
most one policy, and the kind of each is certain.
-/

namespace LocalRepair

structure Policy where
  id : String
  className : String
  n : Nat
  k : Nat
  subpackets : Nat
  optimization : Int
  parameters : List String
deriving DecidableEq, Repr

namespace Policy

def kind (policy : Policy) : Except Error SchemeKind :=
  SchemeKind.parse policy.className

def createScheme (policy : Policy) : Except Error Scheme := do
  Scheme.construct (← policy.kind) policy.n policy.k policy.subpackets policy.optimization
    policy.parameters

end Policy

/-- The policies of a file in their order. -/
structure Registry where
  policies : List Policy
deriving DecidableEq, Repr

namespace Registry

/-- Checks policies that come after others: each must have an id of its own and a known class. -/
def checkPolicies : List Policy → List Policy → Except Error Unit
  | _, [] => .ok ()
  | earlier, policy :: rest => do
    Error.ensure (∀ other ∈ earlier, other.id ≠ policy.id) (.config (.duplicatePolicy policy.id))
    let _ ← policy.kind
    checkPolicies (policy :: earlier) rest

def ofPolicies (policies : List Policy) : Except Error Registry := do
  checkPolicies [] policies
  pure ⟨policies⟩

def get (registry : Registry) (id : String) : Except Error Policy :=
  match registry.policies.find? (·.id = id) with
  | some policy => .ok policy
  | none => .error (.config (.unknownPolicy id))

def createScheme (registry : Registry) (id : String) : Except Error Scheme := do
  (← registry.get id).createScheme

end Registry

end LocalRepair

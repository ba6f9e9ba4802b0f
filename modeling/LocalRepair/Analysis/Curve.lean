import LocalRepair.Placement

/-!
# The trade-off curve

For each granularity of the tunable placement two averages over the data blocks have a closed
form: the number of further fault domains that a repair reads from, and the number of combined
blocks that maintenance transfers, where each domain sends one for all that it contributes to a
sum.  The formulas are written over any number type, so that they can be evaluated
with floating-point numbers and reasoned about with exact ones.
-/

namespace LocalRepair

structure CurvePoint (α : Type) where
  eta : Nat
  /-- The average number of domains, besides its own, that the repair of a block reads from. -/
  repairDomains : α
  /-- The average number of combined blocks transferred for a block whose domain is offline. -/
  maintenanceTransfers : α

namespace CurvePoint

variable {α : Type} [Add α] [Sub α] [Mul α] [Div α]

/-- The averages while the clusters do not cover the local groups with a partial one at the end. -/
def regular (number : Nat → α) (shape : Shape) (eta : Nat) : CurvePoint α :=
  let one := number 1
  let l := number shape.l
  let g := number shape.g
  let b := number shape.b
  let clusters := number eta
  { eta := eta
    repairDomains := b - g * clusters
    maintenanceTransfers :=
      (l - g - one) * (g + one) * g / b * clusters * clusters + g * g * clusters + b }

/-- The averages when the last of `eta` clusters of each local group is partial and holds the local
parity. -/
def partialCluster (number : Nat → α) (shape : Shape) (eta : Nat) : CurvePoint α :=
  let one := number 1
  let l := number shape.l
  let g := number shape.g
  let b := number shape.b
  let delta := number eta
  let sigma := delta * l
  let rest := number (shape.b % (shape.g + 1))
  { eta := eta
    repairDomains := delta - one
    maintenanceTransfers :=
      ((delta - one) * (g + one) * (sigma * g + delta - one) + rest * sigma * rest) / b }

/-- The averages at a granularity up to the largest useful one. -/
def ofEta (number : Nat → α) (shape : Shape) (eta : Nat) : CurvePoint α :=
  if eta = maxEta shape.b shape.g ∧ shape.b % (shape.g + 1) ≠ 0 then
    partialCluster number shape eta
  else
    regular number shape eta

end CurvePoint

def Shape.tradeoffCurve (shape : Shape) : Except Error (List (CurvePoint Float)) := do
  shape.check
  pure ((List.range (maxEta shape.b shape.g + 1)).map (CurvePoint.ofEta Float.ofNat shape))

end LocalRepair

import LocalRepair.Ascending
import LocalRepair.Placement

/-!
# Tolerance of a placement

A code survives the loss of a fault domain that spans `i` local groups if the domain holds at most
`g + i` blocks: each group settles one of its blocks by its own parity, and the global parities
settle `g` more.
-/

namespace LocalRepair.Shape

def spannedGroups (shape : Shape) (domain : FaultDomain) : List Nat :=
  Ascending.ofList (domain.filterMap shape.localGroup?)

/-- Refuses the first of the domains, which begin at a position, that holds too many blocks. -/
def checkDomains (shape : Shape) : Nat → List FaultDomain → Except Error Unit
  | _, [] => .ok ()
  | position, domain :: rest =>
    let spanned := (shape.spannedGroups domain).length
    if domain.length ≤ shape.g + spanned then checkDomains shape (position + 1) rest
    else
      .error (.config (.crowdedDomain position domain.length spanned (shape.g + spanned)))

/-- Refuses placements with a domain whose loss the code may not survive. -/
def checkTolerance (shape : Shape) (domains : List FaultDomain) : Except Error Unit := do
  shape.check
  shape.checkDomains 0 domains

end LocalRepair.Shape

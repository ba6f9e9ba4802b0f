import LocalRepair.DenseMatrix.Inverse
import LocalRepair.Scheme.Basic

/-!
# The recovery system of a fault domain

When a domain is offline, each parity that survives it gives an equation: a sum of surviving
blocks equals a sum of lost data blocks.  The surviving parity of a local group gives one with
coefficients one.  A group that loses `c` blocks, its parity counted, has `c - 1` unknowns more
than its own parity settles, and takes as many global parities, in ascending order and not taken
by a group before it.  The system is the list of these equations, which must be as many as there
are lost data blocks.
-/

namespace LocalRepair

/-- A sum of surviving blocks that equals the sum of the lost data blocks with the coefficients
`unknowns`. -/
structure Equation where
  sources : List Nat
  coefficients : List GF256
  unknowns : List GF256
deriving DecidableEq, Repr

/-- The lost data blocks, ascending, and one equation for each of them. -/
structure RecoverySystem where
  lost : List Nat
  equations : List Equation
deriving DecidableEq, Repr

namespace RecoverySystem

/-- The matrix that maps the lost data blocks to the values of the equations. -/
def matrix (system : RecoverySystem) : Except Error DenseMatrix :=
  match DenseMatrix.ofRows? (system.equations.map Equation.unknowns) with
  | some matrix => .ok matrix
  | none => .error (.recovery .ragged)

end RecoverySystem

namespace Scheme

/-- The data blocks that a domain takes out, ascending. -/
def lostData (scheme : Scheme) (domain : List Nat) : List Nat :=
  (List.range scheme.k).filter (· ∈ domain)

/-- The data blocks that survive a domain, ascending. -/
def survivingData (scheme : Scheme) (domain : List Nat) : List Nat :=
  (List.range scheme.k).filter (· ∉ domain)

/-- The global parities that survive a domain, ascending. -/
def survivingGlobals (scheme : Scheme) (domain : List Nat) : List Nat :=
  scheme.shape.globalParities.filter (· ∉ domain)

/-- The entries of a domain that belong to a local group, parity included. -/
def groupMembers (scheme : Scheme) (domain : List Nat) (group : Nat) : List Nat :=
  domain.filter fun block => scheme.shape.localGroup? block = some group

/-- The equation that a surviving global parity gives. -/
def globalEquation (scheme : Scheme) (generator : DenseMatrix) (domain : List Nat)
    (parity : Nat) : Except Error Equation := do
  let survivors := scheme.survivingData domain
  pure {
    sources := survivors ++ [parity]
    coefficients := (← generator.gather parity survivors) ++ [1]
    unknowns := ← generator.gather parity (scheme.lostData domain) }

/-- The equation that the surviving parity of a local group gives. -/
def localEquation (scheme : Scheme) (domain : List Nat) (group : Nat) : Equation :=
  let shape := scheme.shape
  let sources :=
    (shape.groupData group).filter (· ∉ domain) ++ [shape.localParity group]
  { sources := sources
    coefficients := sources.map fun _ => 1
    unknowns := (scheme.lostData domain).map fun block =>
      if block / shape.b = group then 1 else 0 }

/-- The equations of one local group, and the global parities that it leaves to the groups after
it. -/
def groupEquations (scheme : Scheme) (generator : DenseMatrix) (domain : List Nat)
    (group : Nat) (globals : List Nat) : Except Error (List Equation × List Nat) := do
  let members := scheme.groupMembers domain group
  let needed := members.length - 1
  Error.ensure (needed ≤ globals.length)
    (.recovery (.shortOfGlobals group scheme.shape.g domain))
  let fromGlobals ← (globals.take needed).mapM (scheme.globalEquation generator domain)
  let fromParity :=
    if members = [] ∨ scheme.shape.localParity group ∈ members then []
    else [scheme.localEquation domain group]
  pure (fromGlobals ++ fromParity, globals.drop needed)

def allEquations (scheme : Scheme) (generator : DenseMatrix) (domain : List Nat) :
    List Nat → List Nat → Except Error (List Equation)
  | [], _ => .ok []
  | group :: rest, globals => do
    let (equations, globals) ← scheme.groupEquations generator domain group globals
    pure (equations ++ (← scheme.allEquations generator domain rest globals))

/-- The recovery system of a domain, which is any list of indices, with a generator computed for
it. -/
def recoverySystem (scheme : Scheme) (domain : List Nat) : Except Error RecoverySystem := do
  let generator ← scheme.freshGenerator
  let lost := scheme.lostData domain
  let equations ← scheme.allEquations generator domain (List.range scheme.shape.l)
    (scheme.survivingGlobals domain)
  Error.ensure (equations.length = lost.length)
    (.recovery (.unbalanced domain equations.length lost.length))
  pure ⟨lost, equations⟩

end Scheme

end LocalRepair

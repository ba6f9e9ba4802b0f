import LocalRepair.Code.Generator
import LocalRepair.Placement
import LocalRepair.Text.Blank

/-!
# Schemes

A scheme is a code together with a layout, which fixes how its blocks are placed and what a decode
request assumes.  It is built from typed parameters or, as policies need it, from the texts of the
positional parameters of its kind; either way the same checks decide.
-/

namespace LocalRepair

namespace SchemeKind

def parse (name : String) : Except Error SchemeKind :=
  match ofName? name with
  | some kind => .ok kind
  | none => .error (.config (.unknownKind name))

end SchemeKind

namespace Approach

def parse (name : String) : Except Error Approach :=
  match ofName? name with
  | some approach => .ok approach
  | none => .error (.config (.unknownApproach name))

def ofCode (code : Int) : Except Error Approach :=
  match ofCode? code with
  | some approach => .ok approach
  | none => .error (.unknownApproachCode code)

end Approach

/-- The kind of a scheme with the choices that the kind leaves open. -/
inductive Layout where
  | flat
  | tradeoff (eta : Nat) (approach : Approach)
  | optimizedRepair (approach : Approach)
  | optimizedMaintenance (approach : Approach)
deriving DecidableEq, Repr

namespace Layout

def kind : Layout → SchemeKind
  | .flat => .flat
  | .tradeoff _ _ => .tradeoff
  | .optimizedRepair _ => .optimizedRepair
  | .optimizedMaintenance _ => .optimizedMaintenance

/-- The granularity of a tunable placement. -/
def eta? : Layout → Option Nat
  | .tradeoff eta _ => some eta
  | _ => none

/-- What a decode request assumes.  A domain of a flat layout is a single block, so losing it is
losing the block. -/
def approach : Layout → Approach
  | .flat => .repair
  | .tradeoff _ approach | .optimizedRepair approach | .optimizedMaintenance approach => approach

def placement (shape : Shape) : Layout → Placement
  | .flat => .flat shape.n
  | .tradeoff eta _ => .tunable shape eta
  | .optimizedRepair _ => .repairOptimized
  | .optimizedMaintenance _ => .maintenanceOptimized

/-- Refuses the codes that a layout is not made for. -/
def check (shape : Shape) : Layout → Except Error Unit
  | .flat => .ok ()
  | .tradeoff eta _ => do
    Error.ensure (shape.g ≠ 0) (.config .noGlobalParity)
    let limit := maxEta shape.b shape.g
    Error.ensure (eta ≤ limit) (.config (.granularity eta limit))
  | layout =>
    Error.ensure (shape = ⟨10, 2, 2⟩)
      (.config (.fixedShape layout.kind shape.k shape.l shape.g))

end Layout

/-- A code with its layout and generator.  Blocks consist of `subpackets` sub-packets each, and
`optimization` is a level that schemes carry for their users. -/
structure Scheme where
  shape : Shape
  subpackets : Nat
  optimization : Int
  layout : Layout
  generator : DenseMatrix
deriving DecidableEq, Repr

namespace Scheme

/-- The scheme of a code and a layout whose stripes are announced to have `n` blocks. -/
def build (layout : Layout) (shape : Shape) (n subpackets : Nat) (optimization : Int) :
    Except Error Scheme := do
  shape.check
  Error.ensure (n = shape.n) (.config (.widthMismatch n shape.n))
  Error.ensure (subpackets ≠ 0) (.config .noSubpackets)
  layout.check shape
  checkPartition (layout.placement shape).domains shape.n
  let generator ← shape.generator
  pure ⟨shape, subpackets, optimization, layout, generator⟩

def flat (k l g : Nat) : Except Error Scheme :=
  build .flat ⟨k, l, g⟩ (k + l + g) 1 (-1)

def tradeoff (k l g eta : Nat) (approach : Approach) : Except Error Scheme :=
  build (.tradeoff eta approach) ⟨k, l, g⟩ (k + l + g) 1 (-1)

def optimizedRepair (approach : Approach) : Except Error Scheme :=
  build (.optimizedRepair approach) ⟨10, 2, 2⟩ 14 1 (-1)

def optimizedMaintenance (approach : Approach) : Except Error Scheme :=
  build (.optimizedMaintenance approach) ⟨10, 2, 2⟩ 14 1 (-1)

/-- The integer that a parameter denotes, blanks around it aside. -/
def readParameter (name text : String) : Except Error Int :=
  match Text.readInteger .signed64 10 (Text.trim text.toList) with
  | .ok value => .ok value
  | .error fault => .error (.config (.parameterText name text fault))

/-- The number that a parameter stands for, which must not be negative. -/
def nonNegative (name : String) (value : Int) : Except Error Nat :=
  if 0 ≤ value then .ok value.toNat else .error (.config (.parameterSign name value))

/-- The number of local groups, the number of global parities and the layout that the parameters
of a kind stand for. -/
def readLayout (kind : SchemeKind) (values : List Int) : Except Error (Nat × Nat × Layout) :=
  match kind, values with
  | .flat, [l, g] => do
    pure (← nonNegative "l" l, ← nonNegative "g" g, .flat)
  | .tradeoff, [l, g, eta, code] => do
    let l ← nonNegative "l" l
    let g ← nonNegative "g" g
    let eta ← nonNegative "eta" eta
    pure (l, g, .tradeoff eta (← Approach.ofCode code))
  | .optimizedRepair, [l, g, code] => do
    let l ← nonNegative "l" l
    let g ← nonNegative "g" g
    pure (l, g, .optimizedRepair (← Approach.ofCode code))
  | .optimizedMaintenance, [l, g, code] => do
    let l ← nonNegative "l" l
    let g ← nonNegative "g" g
    pure (l, g, .optimizedMaintenance (← Approach.ofCode code))
  | kind, values => .error (.config (.parameterCount kind values.length))

/-- The scheme of a kind with the texts of its parameters.  All of them are read before any value
is judged. -/
def construct (kind : SchemeKind) (n k subpackets : Nat) (optimization : Int)
    (parameters : List String) : Except Error Scheme := do
  Error.ensure (parameters.length = kind.parameterNames.length)
    (.config (.parameterCount kind parameters.length))
  let values ← (kind.parameterNames.zip parameters).mapM fun (name, text) =>
    readParameter name text
  let (l, g, layout) ← readLayout kind values
  build layout ⟨k, l, g⟩ n subpackets optimization

def n (scheme : Scheme) : Nat :=
  scheme.shape.n

def k (scheme : Scheme) : Nat :=
  scheme.shape.k

def approach (scheme : Scheme) : Approach :=
  scheme.layout.approach

def kind (scheme : Scheme) : SchemeKind :=
  scheme.layout.kind

def placement (scheme : Scheme) : Placement :=
  scheme.layout.placement scheme.shape

def domains (scheme : Scheme) : List FaultDomain :=
  scheme.placement.domains

/-- The generator, computed anew from the code. -/
def freshGenerator (scheme : Scheme) : Except Error DenseMatrix :=
  scheme.shape.generator

/-- The class name with the parameters of the code, and the granularity where there is one. -/
def name (scheme : Scheme) : String :=
  let shape := scheme.shape
  match scheme.layout.eta? with
  | some eta => s!"{scheme.kind.className}({shape.k},{shape.l},{shape.g},eta={eta})"
  | none => s!"{scheme.kind.className}({shape.k},{shape.l},{shape.g})"

end Scheme

end LocalRepair

import LocalRepair.Error

/-!
# The shape of a code

A locally repairable code of shape `(k, l, g)` has `k` data blocks in `l` local groups of equal
size, a local parity for each group and `g` global parities.  Its stripes have `n = k + l + g`
blocks: first the data blocks group by group, then the local parities, then the global ones.  The
global parities need as many field elements as there are blocks, so a stripe has at most 256.
-/

namespace LocalRepair

/-- The numbers of data blocks, local groups and global parities of a code. -/
structure Shape where
  k : Nat
  l : Nat
  g : Nat
deriving DecidableEq, Repr

namespace Shape

/-- The number of blocks of a stripe. -/
def n (shape : Shape) : Nat :=
  shape.k + shape.l + shape.g

/-- The number of data blocks of a local group. -/
def b (shape : Shape) : Nat :=
  shape.k / shape.l

def check (shape : Shape) : Except Error Unit := do
  Error.ensure (shape.k ≠ 0) (.config .noData)
  Error.ensure (shape.l ≠ 0) (.config .noLocalGroups)
  Error.ensure (shape.k % shape.l = 0) (.config (.indivisible shape.k shape.l))
  Error.ensure (shape.n ≤ 256) (.config (.tooWide shape.n))

/-- The local group of a data block or a local parity; a global parity belongs to none. -/
def localGroup? (shape : Shape) (block : Nat) : Option Nat :=
  if block < shape.k then some (block / shape.b)
  else if block < shape.k + shape.l then some (block - shape.k)
  else none

def groupData (shape : Shape) (group : Nat) : List Nat :=
  List.range' (group * shape.b) shape.b

def localParity (shape : Shape) (group : Nat) : Nat :=
  shape.k + group

def globalParities (shape : Shape) : List Nat :=
  List.range' (shape.k + shape.l) shape.g

end Shape

end LocalRepair

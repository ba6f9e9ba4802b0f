import LocalRepair.Block
import Std.Data.TreeMap

/-!
# Stripes

A stripe holds blocks of one size under their indices.  Blocks are inserted and removed one at a
time; a block of another size is refused, so all blocks of a stripe have its block size.
-/

namespace LocalRepair

structure Stripe where
  blockSize : Nat
  blocks : Std.TreeMap Nat Block
  /-- Every present block has the block size. -/
  sized : ∀ (index : Nat) (block : Block), blocks[index]? = some block → block.length = blockSize

namespace Stripe

def empty (blockSize : Nat) : Stripe where
  blockSize := blockSize
  blocks := ∅
  sized := by simp

instance : Inhabited Stripe := ⟨empty 0⟩

def get? (stripe : Stripe) (index : Nat) : Option Block :=
  stripe.blocks[index]?

def contains (stripe : Stripe) (index : Nat) : Bool :=
  stripe.blocks.contains index

/-- Puts a block at an index, in place of the one there. -/
def insert (stripe : Stripe) (index : Nat) (block : Block) : Except Error Stripe :=
  if fits : block.length = stripe.blockSize then
    .ok {
      stripe with
      blocks := stripe.blocks.insert index block
      sized := by
        intro other found present
        rw [Std.TreeMap.getElem?_insert] at present
        split at present
        · cases present
          exact fits
        · exact stripe.sized other found present }
  else
    .error (.sizeMismatch stripe.blockSize block.length)

def remove (stripe : Stripe) (index : Nat) : Stripe where
  blockSize := stripe.blockSize
  blocks := stripe.blocks.erase index
  sized := by
    intro other found present
    rw [Std.TreeMap.getElem?_erase] at present
    split at present
    · cases present
    · exact stripe.sized other found present

def removeAll (stripe : Stripe) (indices : List Nat) : Stripe :=
  indices.foldl remove stripe

/-- The present blocks with their indices, ascending. -/
def toList (stripe : Stripe) : List (Nat × Block) :=
  stripe.blocks.toList

def size (stripe : Stripe) : Nat :=
  stripe.blocks.size

def isEmpty (stripe : Stripe) : Bool :=
  stripe.blocks.isEmpty

theorem length_of_get? {stripe : Stripe} {index : Nat} {block : Block}
    (present : stripe.get? index = some block) : block.length = stripe.blockSize :=
  stripe.sized index block present

@[simp]
theorem get?_empty (blockSize index : Nat) : (empty blockSize).get? index = none := by
  simp [get?, empty]

/-- A block that fits is found at its index, and every other index keeps what it holds. -/
theorem get?_of_insert {stripe inserted : Stripe} {index : Nat} {block : Block}
    (success : stripe.insert index block = .ok inserted) (other : Nat) :
    inserted.get? other = if index = other then some block else stripe.get? other := by
  unfold insert at success
  split at success
  · cases success
    simp [get?, Std.TreeMap.getElem?_insert]
  · cases success

/-- A removed index is empty, and every other index keeps what it holds. -/
theorem get?_remove (stripe : Stripe) (index other : Nat) :
    (stripe.remove index).get? other = if index = other then none else stripe.get? other := by
  simp [get?, remove, Std.TreeMap.getElem?_erase]

end Stripe

end LocalRepair

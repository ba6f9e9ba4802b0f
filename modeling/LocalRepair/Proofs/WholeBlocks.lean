import Mathlib
import LocalRepair.Proofs.ReadSymbols

/-!
# Plans read whole blocks

The symbols of a block follow each other, and those of the next block follow them.  A plan
nevertheless takes one seek for each block: it reads every block of a stripe that its graph
takes as an input from the first sub-packet to the last.  Where the symbols of a stripe cannot
be numbered in 64 bits, it may miss some of them.
-/

namespace LocalRepair

theorem countRuns_range' (start count : Nat) :
    countRuns (List.range' start (count + 1)) = 1 := by
  induction count generalizing start with
  | zero => rfl
  | succ count ih =>
      rw [List.range'_succ, List.range'_succ, countRuns_cons_cons, ← List.range'_succ, ih,
        if_pos rfl]

namespace Scheme

variable {scheme : Scheme} {graph : Graph}

/-- The inputs of a graph that are blocks of a stripe. -/
def storedInputs (scheme : Scheme) (graph : Graph) : List Nat :=
  graph.inputs.filter (· < scheme.n)

theorem Sound.packets_planCost (sound : scheme.Sound) (addressable : scheme.Addressable)
    {read : BlockRead}
    (isRead : read ∈ (scheme.planCost graph).reads) :
    read.packets = List.range scheme.subpackets := by
  have positive : 0 < scheme.subpackets := Nat.pos_of_ne_zero sound.subpackets
  have isBlock := (sound.mem_blocks_planCost addressable).mp (List.mem_map_of_mem isRead)
  obtain ⟨symbols, ascending, members, reads⟩ := sound.exists_reads_planCost addressable graph
  rw [reads] at isRead
  have inside := (ReadCost.filled_readsOfSymbols positive symbols read isRead).2
  apply eq_of_ascending (ReadCost.pairwise_packets ascending isRead) List.pairwise_lt_range
  intro packet
  rw [List.mem_range]
  constructor
  · exact inside packet
  · intro isPacket
    rw [ReadCost.mem_packets_iff ascending positive isRead isPacket, members,
      DenseMatrix.index_div _ isPacket]
    exact isBlock

theorem Sound.seeks_planCost (sound : scheme.Sound) (addressable : scheme.Addressable)
    {read : BlockRead}
    (isRead : read ∈ (scheme.planCost graph).reads) : read.seeks = 1 := by
  obtain ⟨count, isCount⟩ := Nat.exists_eq_succ_of_ne_zero sound.subpackets
  rw [BlockRead.seeks, sound.packets_planCost addressable isRead, isCount, List.range_eq_range']
  exact countRuns_range' 0 count

theorem Sound.reads_planCost (sound : scheme.Sound) (addressable : scheme.Addressable)
    (graph : Graph) :
    (scheme.planCost graph).reads =
      (scheme.storedInputs graph).map fun block => ⟨block, List.range scheme.subpackets⟩ := by
  have whole : ∀ read ∈ (scheme.planCost graph).reads,
      id read = ⟨read.block, List.range scheme.subpackets⟩ := by
    intro read isRead
    rw [← sound.packets_planCost addressable isRead, id]
  have same := List.map_congr_left whole
  rw [List.map_id] at same
  rw [storedInputs, ← sound.blocks_planCost addressable, List.map_map]
  exact same

end Scheme

end LocalRepair

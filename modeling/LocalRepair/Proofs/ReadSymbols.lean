import Mathlib
import LocalRepair.Proofs.Measurement
import LocalRepair.Proofs.ReadBlocks

/-!
# The symbols that are read

Reading block by block lists ascending symbols in their order.  So what reading costs
depends only on the set of the symbols that a stripe stores: each of them is one
sub-packet, and a seek is taken for each one that is the first of its block or does not
follow another.
-/

namespace LocalRepair

/-- A number starts a run if it does not follow another one. -/
def StartsRun (numbers : List Nat) (number : Nat) : Prop :=
  ∀ before ∈ numbers, before + 1 ≠ number

instance (numbers : List Nat) : DecidablePred (StartsRun numbers) :=
  fun _ => List.decidableBAll _ _

theorem startsRun_cons_iff {first number : Nat} {rest : List Nat} :
    StartsRun (first :: rest) number ↔ first + 1 ≠ number ∧ StartsRun rest number :=
  List.forall_mem_cons

theorem startsRun_of_ascending {first : Nat} {rest : List Nat}
    (ascending : (first :: rest).Pairwise (· < ·)) : StartsRun (first :: rest) first := by
  rw [startsRun_cons_iff]
  refine ⟨Nat.succ_ne_self first, ?_⟩
  intro before member
  have later := (List.pairwise_cons.mp ascending).1 before member
  omega

theorem countRuns_cons_cons (first second : Nat) (rest : List Nat) :
    countRuns (first :: second :: rest) =
      (if second = first + 1 then 0 else 1) + countRuns (second :: rest) := by
  by_cases follows : second = first + 1
  · simp [countRuns, follows]
  · simp [countRuns, follows, Nat.add_comm]

theorem countRuns_eq_countP {numbers : List Nat} (ascending : numbers.Pairwise (· < ·)) :
    countRuns numbers = numbers.countP (StartsRun numbers) := by
  induction numbers with
  | nil => rfl
  | cons first rest ih =>
      have startsFirst := startsRun_of_ascending ascending
      cases rest with
      | nil => simp [countRuns, startsFirst]
      | cons second others =>
          rw [List.pairwise_cons] at ascending
          have startsSecond := startsRun_of_ascending ascending.2
          have isSecond : StartsRun (first :: second :: others) second ↔
              ¬second = first + 1 := by
            rw [startsRun_cons_iff, ne_comm]
            exact and_iff_left startsSecond
          -- what is behind the second number does not follow the first
          have behind : others.countP (StartsRun (first :: second :: others)) =
              others.countP (StartsRun (second :: others)) := by
            apply List.countP_congr
            intro number member
            have above := ascending.1 second List.mem_cons_self
            have beyond := (List.pairwise_cons.mp ascending.2).1 number member
            have apart : first + 1 ≠ number := by omega
            simp [startsRun_cons_iff, apart]
          rw [countRuns_cons_cons, ih ascending.2]
          simp only [List.countP_cons, decide_eq_true_eq, behind, startsFirst, startsSecond,
            isSecond, if_true]
          split_ifs <;> omega

namespace ReadCost

variable {w : Nat} {symbols : List Nat}

/-- The symbols that are read, block by block. -/
def symbolsOf (w : Nat) (reads : List BlockRead) : List Nat :=
  reads.flatMap fun read => read.packets.map (read.block * w + ·)

theorem symbolsOf_addSymbol (w symbol : Nat) (reads : List BlockRead) :
    symbolsOf w (addSymbol w symbol reads) = symbol :: symbolsOf w reads := by
  have whole : symbol / w * w + symbol % w = symbol := Nat.div_add_mod' symbol w
  cases reads with
  | nil => simp [symbolsOf, addSymbol, whole]
  | cons read rest =>
      rw [addSymbol]
      split_ifs with same
      · simp [symbolsOf, same, whole]
      · simp [symbolsOf, whole]

theorem symbolsOf_readsOfSymbols (w : Nat) (symbols : List Nat) :
    symbolsOf w (readsOfSymbols w symbols) = symbols := by
  induction symbols with
  | nil => rfl
  | cons symbol rest ih =>
      rw [readsOfSymbols, List.foldr_cons, symbolsOf_addSymbol, ← readsOfSymbols, ih]

/-- A block is read for the sake of a sub-packet, and only those of the block are read. -/
def Filled (w : Nat) (reads : List BlockRead) : Prop :=
  ∀ read ∈ reads, read.packets ≠ [] ∧ ∀ packet ∈ read.packets, packet < w

theorem Filled.addSymbol (positive : 0 < w) {reads : List BlockRead} (filled : Filled w reads)
    (symbol : Nat) : Filled w (addSymbol w symbol reads) := by
  have inside : symbol % w < w := Nat.mod_lt symbol positive
  cases reads with
  | nil => simp [Filled, ReadCost.addSymbol, inside]
  | cons read rest =>
      unfold Filled at filled ⊢
      rw [List.forall_mem_cons] at filled
      rw [ReadCost.addSymbol]
      split_ifs with same
      · simpa [inside] using ⟨filled.1.2, filled.2⟩
      · simpa [inside] using filled

theorem filled_readsOfSymbols (positive : 0 < w) (symbols : List Nat) :
    Filled w (readsOfSymbols w symbols) := by
  induction symbols with
  | nil => simp [Filled, readsOfSymbols]
  | cons symbol rest ih =>
      rw [readsOfSymbols, List.foldr_cons, ← readsOfSymbols]
      exact ih.addSymbol positive symbol

theorem mem_symbolsOf_iff {reads : List BlockRead} {symbol : Nat} :
    symbol ∈ symbolsOf w reads ↔
      ∃ read ∈ reads, ∃ packet ∈ read.packets, read.block * w + packet = symbol := by
  simp only [symbolsOf, List.mem_flatMap, List.mem_map]

theorem exists_packet_iff (positive : 0 < w) {block packet : Nat} :
    (∃ read ∈ readsOfSymbols w symbols, read.block = block ∧ packet ∈ read.packets) ↔
      ∃ symbol ∈ symbols, symbol / w = block ∧ symbol % w = packet := by
  have filled := filled_readsOfSymbols positive symbols
  have listed : ∀ symbol, symbol ∈ symbols ↔ symbol ∈ symbolsOf w (readsOfSymbols w symbols) := by
    intro symbol
    rw [symbolsOf_readsOfSymbols]
  simp only [listed, mem_symbolsOf_iff]
  constructor
  · rintro ⟨read, isRead, rfl, isPacket⟩
    have inside := (filled read isRead).2 packet isPacket
    exact ⟨_, ⟨read, isRead, packet, isPacket, rfl⟩,
      DenseMatrix.index_div _ inside, DenseMatrix.index_mod _ inside⟩
  · rintro ⟨_, ⟨read, isRead, packet, isPacket, rfl⟩, rfl, rfl⟩
    have inside := (filled read isRead).2 packet isPacket
    refine ⟨read, isRead, (DenseMatrix.index_div _ inside).symm, ?_⟩
    rw [DenseMatrix.index_mod _ inside]
    exact isPacket

section

variable (ascending : symbols.Pairwise (· < ·))
include ascending

theorem pairwise_packets {read : BlockRead} (isRead : read ∈ readsOfSymbols w symbols) :
    read.packets.Pairwise (· < ·) := by
  rw [← symbolsOf_readsOfSymbols w symbols, symbolsOf, List.pairwise_flatMap] at ascending
  have ofBlock := ascending.1 read isRead
  rw [List.pairwise_map] at ofBlock
  exact ofBlock.imp Nat.lt_of_add_lt_add_left

theorem mem_packets_iff (positive : 0 < w) {read : BlockRead}
    (isRead : read ∈ readsOfSymbols w symbols) {packet : Nat} (inside : packet < w) :
    packet ∈ read.packets ↔ read.block * w + packet ∈ symbols := by
  constructor
  · intro isPacket
    obtain ⟨symbol, member, isBlock, rfl⟩ :=
      (exists_packet_iff positive).mp ⟨read, isRead, rfl, isPacket⟩
    rw [← isBlock, Nat.div_add_mod']
    exact member
  · intro member
    obtain ⟨other, isOther, sameBlock, isPacket⟩ := (exists_packet_iff positive).mpr
      ⟨_, member, DenseMatrix.index_div _ inside, DenseMatrix.index_mod _ inside⟩
    have distinct : ((readsOfSymbols w symbols).map BlockRead.block).Nodup :=
      (pairwise_blocks_readsOfSymbols ascending).imp Nat.ne_of_lt
    have same : other = read := List.inj_on_of_nodup_map distinct isOther isRead sameBlock
    rw [← same]
    exact isPacket

theorem startsRun_packets_iff (positive : 0 < w) {read : BlockRead}
    (isRead : read ∈ readsOfSymbols w symbols) {packet : Nat} (isPacket : packet ∈ read.packets) :
    StartsRun read.packets packet ↔
      (read.block * w + packet) % w = 0 ∨ read.block * w + packet - 1 ∉ symbols := by
  have inside := (filled_readsOfSymbols positive symbols read isRead).2 packet isPacket
  rw [DenseMatrix.index_mod _ inside]
  cases packet with
  | zero => simp [StartsRun]
  | succ before =>
      have follows : StartsRun read.packets (before + 1) ↔ before ∉ read.packets := by
        simp [StartsRun, List.forall_mem_ne']
      rw [follows, mem_packets_iff ascending positive isRead (Nat.lt_of_succ_lt inside)]
      simp

theorem total_seeks_readsOfSymbols (positive : 0 < w) :
    total BlockRead.seeks (readsOfSymbols w symbols) =
      symbols.countP fun symbol => symbol % w = 0 ∨ symbol - 1 ∉ symbols := by
  have each : ∀ read ∈ readsOfSymbols w symbols, read.seeks =
      (read.packets.map (read.block * w + ·)).countP fun symbol =>
        symbol % w = 0 ∨ symbol - 1 ∉ symbols := by
    intro read isRead
    rw [BlockRead.seeks, countRuns_eq_countP (pairwise_packets ascending isRead),
      List.countP_map]
    apply List.countP_congr
    intro packet isPacket
    simp [startsRun_packets_iff ascending positive isRead isPacket]
  calc
    total BlockRead.seeks (readsOfSymbols w symbols)
        = ((readsOfSymbols w symbols).map BlockRead.seeks).sum := total_eq_sum_map _ _
    _ = (symbolsOf w (readsOfSymbols w symbols)).countP fun symbol =>
          symbol % w = 0 ∨ symbol - 1 ∉ symbols := by
        rw [List.map_congr_left each, symbolsOf, List.countP_flatMap]
        rfl
    _ = symbols.countP fun symbol => symbol % w = 0 ∨ symbol - 1 ∉ symbols := by
        rw [symbolsOf_readsOfSymbols]

end

theorem total_packets_readsOfSymbols (w : Nat) (symbols : List Nat) :
    total (·.packets.length) (readsOfSymbols w symbols) = symbols.length :=
  calc
    total (·.packets.length) (readsOfSymbols w symbols)
        = ((readsOfSymbols w symbols).map (·.packets.length)).sum := total_eq_sum_map _ _
    _ = (symbolsOf w (readsOfSymbols w symbols)).length := by
        simp [symbolsOf, List.length_flatMap]
    _ = symbols.length := by rw [symbolsOf_readsOfSymbols]

/-- What it costs to read a set of symbols of blocks with `w` sub-packets each. -/
structure Accounts (cost : ReadCost) (symbols : Finset Nat) (w : Nat)
    (domains : List FaultDomain) : Prop where
  blocks : (cost.reads.map BlockRead.block).Pairwise (· < ·)
  packets : ∀ read ∈ cost.reads, read.packets ≠ [] ∧ read.packets.Pairwise (· < ·) ∧
    ∀ packet ∈ read.packets, packet < w
  pairs : ∀ block packet,
    (∃ read ∈ cost.reads, read.block = block ∧ packet ∈ read.packets) ↔
      ∃ symbol ∈ symbols, symbol / w = block ∧ symbol % w = packet
  packetsRead : cost.packetsRead = symbols.card
  blocksRead : cost.blocksRead = (symbols.image (· / w)).card
  seeks : cost.seeks =
    (symbols.filter fun symbol => symbol % w = 0 ∨ symbol - 1 ∉ symbols).card
  domainsTouched : domains.Pairwise List.Disjoint →
    cost.domainsTouched =
      domains.countP fun domain => ∃ read ∈ cost.reads, read.block ∈ domain

theorem accounts_readsOfSymbols (positive : 0 < w) (ascending : symbols.Pairwise (· < ·))
    (domains : List FaultDomain) (dataPackets : Option Nat) :
    Accounts ⟨readsOfSymbols w symbols,
      (touchedDomains domains (readsOfSymbols w symbols)).length, dataPackets⟩
      symbols.toFinset w domains := by
  have distinct : symbols.Nodup := ascending.imp Nat.ne_of_lt
  have blocksAscend : ((readsOfSymbols w symbols).map BlockRead.block).Pairwise (· < ·) :=
    pairwise_blocks_readsOfSymbols ascending
  constructor
  case blocks => exact blocksAscend
  case packets =>
    intro read isRead
    obtain ⟨some, inside⟩ := filled_readsOfSymbols positive symbols read isRead
    exact ⟨some, pairwise_packets ascending isRead, inside⟩
  case pairs =>
    intro block packet
    simp only [List.mem_toFinset]
    exact exists_packet_iff positive
  case packetsRead =>
    rw [List.toFinset_card_of_nodup distinct]
    exact total_packets_readsOfSymbols w symbols
  case blocksRead =>
    have sameBlocks : symbols.toFinset.image (· / w) =
        ((readsOfSymbols w symbols).map BlockRead.block).toFinset := by
      ext block
      rw [List.mem_toFinset, mem_blocks_readsOfSymbols]
      simp
    rw [sameBlocks, List.toFinset_card_of_nodup (blocksAscend.imp Nat.ne_of_lt),
      List.length_map]
    rfl
  case seeks =>
    have starts : (symbols.toFinset.filter fun symbol =>
        symbol % w = 0 ∨ symbol - 1 ∉ symbols.toFinset) =
          (symbols.filter fun symbol => symbol % w = 0 ∨ symbol - 1 ∉ symbols).toFinset := by
      ext symbol
      simp
    rw [starts, List.toFinset_card_of_nodup (distinct.filter _),
      ← List.countP_eq_length_filter]
    exact total_seeks_readsOfSymbols ascending positive
  case domainsTouched =>
    intro apart
    exact length_touchedDomains apart _

end ReadCost

end LocalRepair

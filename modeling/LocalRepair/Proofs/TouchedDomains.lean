import Mathlib
import LocalRepair.Analysis.Average
import LocalRepair.Proofs.Construction

/-!
# Fault domains that a plan reads from

A plan reads whole blocks: every input of its graph that a stripe stores, and no other
block.  The domains counted for it are those that hold one of these blocks, each once.
This takes a stripe whose symbols can be numbered in 64 bits.
-/

namespace LocalRepair

theorem symbolCount_eq {blocks w : Nat} (fits : blocks * w < UInt64.size) :
    symbolCount blocks w = blocks * w :=
  Nat.mod_eq_of_lt fits

theorem symbolsOfBlock_eq {blocks w block : Nat} (fits : blocks * w < UInt64.size)
    (inside : block < blocks) : symbolsOfBlock w block = List.range' (block * w) w := by
  have next : (block + 1) * w ≤ blocks * w := Nat.mul_le_mul_right w inside
  have nextFits := Nat.lt_of_le_of_lt next fits
  rw [Nat.add_one_mul] at nextFits
  rw [symbolsOfBlock, symbolCount_eq (Nat.lt_of_le_of_lt (Nat.le_add_right _ w) nextFits),
    symbolCount_eq (by rwa [Nat.add_one_mul]), Nat.add_one_mul, Nat.add_sub_cancel_left]

theorem domainPosition?_eq_some_iff {domains : List FaultDomain} {block position : Nat}
    (apart : domains.Pairwise List.Disjoint) :
    domainPosition? domains block = some position ↔
      ∃ domain, domains[position]? = some domain ∧ block ∈ domain := by
  rw [domainPosition?, List.findIdx?_eq_some_iff_getElem]
  constructor
  · rintro ⟨inside, holds, _⟩
    exact ⟨_, List.getElem?_eq_getElem inside, of_decide_eq_true holds⟩
  · rintro ⟨domain, found, member⟩
    obtain ⟨inside, rfl⟩ := List.getElem?_eq_some_iff.mp found
    refine ⟨inside, decide_eq_true member, ?_⟩
    intro earlier before holds
    have disjoint := List.pairwise_iff_getElem.mp apart earlier position
      (before.trans inside) inside before
    exact disjoint (of_decide_eq_true holds) member

namespace ReadCost

theorem mem_blocks_addSymbol {w symbol block : Nat} {reads : List BlockRead} :
    block ∈ (addSymbol w symbol reads).map BlockRead.block ↔
      symbol / w = block ∨ block ∈ reads.map BlockRead.block := by
  cases reads with
  | nil => simp [addSymbol, eq_comm]
  | cons read rest =>
      rw [addSymbol]
      split_ifs with same
      · simp [← same, eq_comm]
      · simp [eq_comm]

theorem mem_blocks_readsOfSymbols {w block : Nat} {symbols : List Nat} :
    block ∈ (readsOfSymbols w symbols).map BlockRead.block ↔
      ∃ symbol ∈ symbols, symbol / w = block := by
  induction symbols with
  | nil => simp [readsOfSymbols]
  | cons symbol rest ih =>
      rw [readsOfSymbols, List.foldr_cons, mem_blocks_addSymbol, ← readsOfSymbols, ih,
        List.exists_mem_cons_iff]

theorem mem_touchedDomains {domains : List FaultDomain}
    (apart : domains.Pairwise List.Disjoint) {reads : List BlockRead} {position : Nat} :
    position ∈ touchedDomains domains reads ↔
      ∃ domain, domains[position]? = some domain ∧ ∃ read ∈ reads, read.block ∈ domain := by
  simp only [touchedDomains, Ascending.mem_ofList, List.mem_filterMap,
    domainPosition?_eq_some_iff apart]
  constructor
  · rintro ⟨read, isRead, domain, found, member⟩
    exact ⟨domain, found, read, isRead, member⟩
  · rintro ⟨domain, found, read, isRead, member⟩
    exact ⟨read, isRead, domain, found, member⟩

theorem nodup_touchedDomains (domains : List FaultDomain) (reads : List BlockRead) :
    (touchedDomains domains reads).Nodup :=
  (Ascending.pairwise_ofList _).imp Nat.ne_of_lt

theorem length_touchedDomains {domains : List FaultDomain}
    (apart : domains.Pairwise List.Disjoint) (reads : List BlockRead) :
    (touchedDomains domains reads).length =
      domains.countP fun domain => ∃ read ∈ reads, read.block ∈ domain := by
  rw [← List.length_findIdxs]
  apply List.Perm.length_eq
  rw [List.perm_ext_iff_of_nodup (nodup_touchedDomains _ _) List.nodup_findIdxs]
  intro position
  rw [mem_touchedDomains apart, mem_findIdxs_iff]
  simp only [decide_eq_true_eq]

end ReadCost

namespace Scheme

variable {scheme : Scheme}

theorem Sound.exists_position (sound : scheme.Sound) {block : Nat} (inside : block < scheme.n) :
    ∃ position, domainPosition? scheme.domains block = some position := by
  obtain ⟨position, placed, _⟩ := existsUnique_position_of_nodup_flatten
    sound.nodup_flatten_domains (sound.mem_flatten_domains.mpr inside)
  exact ⟨position, (domainPosition?_eq_some_iff sound.disjoint_domains).mpr placed⟩

/-- The number of symbols of a stripe fits 64 bits. -/
def Addressable (scheme : Scheme) : Prop :=
  scheme.n * scheme.subpackets < UInt64.size

instance (scheme : Scheme) : Decidable scheme.Addressable :=
  inferInstanceAs (Decidable (_ < _))

/-- A plan reads all symbols of the inputs of its graph that are blocks of a stripe. -/
theorem Sound.exists_reads_planCost (sound : scheme.Sound) (addressable : scheme.Addressable)
    (graph : Graph) :
    ∃ symbols : List Nat, symbols.Pairwise (· < ·) ∧
      (∀ symbol, symbol ∈ symbols ↔ symbol / scheme.subpackets ∈ graph.inputs ∧
        symbol / scheme.subpackets < scheme.n) ∧
      (scheme.planCost graph).reads = ReadCost.readsOfSymbols scheme.subpackets symbols := by
  have packets : 0 < scheme.subpackets := Nat.pos_of_ne_zero sound.subpackets
  have width : max scheme.subpackets 1 = scheme.subpackets := Nat.max_eq_left packets
  have ofBlock : ∀ block < scheme.n, ∀ symbol,
      symbol ∈ symbolsOfBlock scheme.subpackets block ↔ symbol / scheme.subpackets = block := by
    intro block inside symbol
    rw [symbolsOfBlock_eq addressable inside, List.mem_range'_1, Nat.div_eq_iff packets]
    omega
  refine ⟨_, Ascending.pairwise_ofList _, ?_, by rw [planCost, ReadCost.ofSymbols, width]⟩
  intro symbol
  simp only [Ascending.mem_ofList, List.mem_filter, List.mem_flatMap, decide_eq_true_eq,
    symbolCount_eq addressable, ← Nat.div_lt_iff_lt_mul packets]
  constructor
  · rintro ⟨⟨block, ⟨isInput, inside⟩, member⟩, _⟩
    rw [(ofBlock block inside symbol).mp member]
    exact ⟨isInput, inside⟩
  · rintro ⟨isInput, inside⟩
    exact ⟨⟨_, ⟨isInput, inside⟩, (ofBlock _ inside symbol).mpr rfl⟩, inside⟩

/-- A plan reads the inputs of its graph that are blocks of a stripe. -/
theorem Sound.mem_blocks_planCost (sound : scheme.Sound) (addressable : scheme.Addressable)
    {graph : Graph} {block : Nat} :
    block ∈ (scheme.planCost graph).reads.map BlockRead.block ↔
      block ∈ graph.inputs ∧ block < scheme.n := by
  obtain ⟨symbols, _, members, reads⟩ := sound.exists_reads_planCost addressable graph
  rw [reads, ReadCost.mem_blocks_readsOfSymbols]
  constructor
  · rintro ⟨symbol, member, rfl⟩
    exact (members symbol).mp member
  · intro isRead
    have first : block * scheme.subpackets / scheme.subpackets = block :=
      Nat.mul_div_cancel _ (Nat.pos_of_ne_zero sound.subpackets)
    refine ⟨block * scheme.subpackets, ?_, first⟩
    rw [members, first]
    exact isRead

/-- The positions of the domains, other than the one at `home`, that hold a block which
the plan with the given graph reads. -/
def furtherDomains (scheme : Scheme) (graph : Graph) (home : Nat) : List Nat :=
  (scheme.domains.findIdxs fun domain =>
    ∃ read ∈ (scheme.planCost graph).reads, read.block ∈ domain).filter (· ≠ home)

theorem mem_furtherDomains {graph : Graph} {home position : Nat} :
    position ∈ scheme.furtherDomains graph home ↔
      (∃ domain, scheme.domains[position]? = some domain ∧
        ∃ read ∈ (scheme.planCost graph).reads, read.block ∈ domain) ∧ position ≠ home := by
  rw [furtherDomains, List.mem_filter, decide_eq_true_eq, mem_findIdxs_iff]
  simp only [decide_eq_true_eq]

theorem nodup_furtherDomains (graph : Graph) (home : Nat) :
    (scheme.furtherDomains graph home).Nodup :=
  List.nodup_findIdxs.filter _

theorem Sound.domains_planReads (sound : scheme.Sound) (home : Nat) (plan : DecodePlan) :
    (scheme.planReads home plan).domains = (scheme.furtherDomains plan.graph home).length := by
  have touchedDistinct := ReadCost.nodup_touchedDomains scheme.domains
    (scheme.planCost plan.graph).reads
  apply List.Perm.length_eq
  rw [List.perm_ext_iff_of_nodup (touchedDistinct.filter _) (nodup_furtherDomains _ _)]
  intro position
  rw [mem_furtherDomains, List.mem_filter,
    ReadCost.mem_touchedDomains sound.disjoint_domains, decide_eq_true_eq]

end Scheme

end LocalRepair

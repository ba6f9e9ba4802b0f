import Mathlib
import LocalRepair.Proofs.SingleRepair
import LocalRepair.Proofs.TopologicalOrder

/-!
# Parities of an encoded stripe

All parities are computed by one batch that reads the data blocks in ascending order.  So
a stripe with all data gets for each parity the product of its row of the generator with
the data, whatever it held there before, and a stripe without is left as it was and
refused for its first missing data block.
-/

namespace LocalRepair

namespace Scheme

variable {scheme : Scheme} {bindings : List (List Nat)} {stripe : Stripe}

/-- The encoded form of a stripe that holds the `blocks` as its data. -/
structure Encodes (scheme : Scheme) (stripe encoded : Stripe) (blocks : Nat → Block) :
    Prop where
  data : ∀ index < scheme.k, stripe.get? index = some (blocks index)
  /-- A parity is the product of its row of the generator with the data. -/
  parity : ∀ index, scheme.k ≤ index → index < scheme.n →
    ∃ block, encoded.get? index = some block ∧ block.length = stripe.blockSize ∧
      ∀ position, Block.byte block position = ((List.range scheme.k).map fun col =>
        scheme.generator.get index col * Block.byte (blocks col) position).sum
  /-- A local parity adds up the data of its group. -/
  localParity : ∀ group < scheme.shape.l,
    ∃ block, encoded.get? (scheme.shape.localParity group) = some block ∧
      ∀ position, Block.byte block position =
        ((List.range' (group * scheme.shape.b) scheme.shape.b).map fun col =>
          Block.byte (blocks col) position).sum
  kept : ∀ index, index < scheme.k ∨ scheme.n ≤ index →
    encoded.get? index = stripe.get? index

theorem units_parityGraph (valid : (scheme.parityGraph bindings).Valid)
    (some : scheme.parities ≠ [])
    (bound : scheme.parities.length < 2 ∧ bindings = [] ∨ bindings = [scheme.parities]) :
    (scheme.parityGraph bindings).units = [scheme.parities.map scheme.parityNode] := by
  have isUnit :
      (scheme.parityGraph bindings).FormsUnit (scheme.parities.map scheme.parityNode) := by
    rcases bound with ⟨few, rfl⟩ | rfl
    · obtain ⟨parity, isParity⟩ : ∃ parity, scheme.parities = [parity] := by
        have count := List.length_pos_iff.mpr some
        exact List.length_eq_one_iff.mp (by omega)
      rw [isParity]
      refine .alone (mem_parityNodes.mpr ⟨parity, by simp [isParity], rfl⟩) ?_
      intro binding member
      cases member
    · have all : (scheme.parityGraph [scheme.parities]).nodes.filter
          (·.target ∈ scheme.parities) = scheme.parities.map scheme.parityNode := by
        apply List.filter_eq_self.mpr
        intro node member
        obtain ⟨parity, isParity, rfl⟩ := mem_parityNodes.mp member
        exact decide_eq_true isParity
      rw [← all]
      exact .bound List.mem_cons_self
  have member := (Graph.mem_units_iff valid).mpr isUnit
  apply List.perm_singleton.mp
  rw [List.perm_ext_iff_of_nodup Graph.nodup_units (List.nodup_singleton _)]
  intro unit
  rw [List.mem_singleton]
  constructor
  · -- a unit has a node, which belongs to the unit of all nodes
    intro unitMember
    obtain ⟨node, isNode, rfl⟩ := Graph.mem_units.mp unitMember
    exact (Graph.mem_nodes_of_mem_units valid member isNode).2
  · rintro rfl
    exact member

theorem Sound.parities_ne_nil (sound : scheme.Sound) : scheme.parities ≠ [] :=
  List.ne_nil_of_mem (mem_parities.mpr ⟨Nat.le_refl _, sound.k_lt_n⟩)

theorem Sound.exists_encode (sound : scheme.Sound) :
    ∃ graph, scheme.encode = .ok graph ∧ graph.Valid ∧
      graph.scheduledUnits = .ok [scheme.parities.map scheme.parityNode] := by
  obtain ⟨bindings, encodeOk, valid, bound⟩ := sound.encode_eq
  obtain ⟨schedule, success⟩ := exists_schedule_parityGraph valid
  have perm := (Graph.schedule_of_scheduledUnits valid success).perm
  rw [units_parityGraph valid sound.parities_ne_nil bound, List.perm_singleton] at perm
  exact ⟨_, encodeOk, valid, perm ▸ success⟩

theorem Sound.encodeStripe_eq_runBatches (sound : scheme.Sound) (stripe : Stripe) :
    scheme.encodeStripe stripe =
      stripe.runBatches scheme.n [Batch.ofUnit (scheme.parities.map scheme.parityNode)] := by
  obtain ⟨graph, encodeOk, _, success⟩ := sound.exists_encode
  rw [encodeStripe_eq_runGraph encodeOk, Stripe.runGraph, Graph.lower, success]
  rfl

theorem Sound.blockSize_encodeStripe (sound : scheme.Sound) (stripe : Stripe) :
    (scheme.encodeStripe stripe).stripe.blockSize = stripe.blockSize := by
  obtain ⟨graph, encodeOk, valid, success⟩ := sound.exists_encode
  rw [encodeStripe_eq_runGraph encodeOk]
  exact (Graph.executes_runGraph valid success scheme.n stripe).blockSize

theorem Sound.children_parities (sound : scheme.Sound) :
    (Batch.ofUnit (scheme.parities.map scheme.parityNode)).children = List.range scheme.k := by
  obtain ⟨first, rest, isParities⟩ := List.exists_cons_of_ne_nil sound.parities_ne_nil
  have again : (rest.map scheme.parityNode).flatMap Node.sources ⊆ List.range scheme.k := by
    intro index read
    obtain ⟨node, member, read⟩ := List.mem_flatMap.mp read
    obtain ⟨parity, _, rfl⟩ := List.mem_map.mp member
    rw [sources_parityNode] at read
    exact read
  change ((scheme.parities.map scheme.parityNode).flatMap Node.sources).eraseDups = _
  rw [isParities, List.map_cons, List.flatMap_cons, sources_parityNode,
    eraseDups_append_of_subset again, eraseDups_eq_self List.nodup_range]

theorem Sound.encodeStripe_refused (sound : scheme.Sound) (missing : ¬stripe.HoldsData scheme.k) :
    ∃ index < scheme.k, stripe.contains index = false ∧
      (∀ smaller < index, stripe.contains smaller = true) ∧
      scheme.encodeStripe stripe = ⟨stripe, .error (.missingBlock index)⟩ := by
  have held : ∀ index < scheme.k,
      ((∃ block, Workspace.get? ⟨stripe, ∅⟩ scheme.n index = some block) ↔
        stripe.contains index = true) := by
    intro index isData
    rw [Workspace.get?, if_pos (isData.trans sound.k_lt_n), Stripe.contains_iff]
  rcases Batch.inputs_cases (Batch.ofUnit (scheme.parities.map scheme.parityNode)) scheme.n
      ⟨stripe, ∅⟩ with all | ⟨before, index, after, division, earlier, absent, refused⟩
  · rw [sound.children_parities] at all
    exact absurd (fun index isData => (held index isData).mp
      (all index (List.mem_range.mpr isData))) missing
  · rw [sound.children_parities] at division
    have isData : index < scheme.k := List.mem_range.mp (by simp [division])
    refine ⟨index, isData, ?_, ?_, ?_⟩
    · rw [← Bool.not_eq_true, ← held index isData, absent]
      simp
    · intro smaller less
      rw [List.range_eq_range'] at division
      obtain ⟨count, _, rfl, rest⟩ := List.range'_eq_append_iff.mp division
      obtain ⟨isCount, _⟩ := List.range'_eq_cons_iff.mp rest.symm
      have isEarlier : smaller ∈ List.range' 0 count := by
        rw [List.mem_range'_1]
        omega
      exact (held smaller (less.trans isData)).mp (earlier smaller isEarlier)
    · rw [sound.encodeStripe_eq_runBatches, Stripe.runBatches, Batch.runAll, Batch.results,
        refused, Outcome.error_bind]

theorem Sound.exists_encodes (sound : scheme.Sound) (data : stripe.HoldsData scheme.k) :
    ∃ blocks, scheme.Encodes stripe (scheme.encodeStripe stripe).stripe blocks := by
  obtain ⟨_, kept, blocks, stored⟩ := sound.encodeStripe data
  have keptOutside : ∀ index, index < scheme.k ∨ scheme.n ≤ index →
      (scheme.encodeStripe stripe).stripe.get? index = stripe.get? index := by
    intro index outside
    apply kept
    rw [mem_parities]
    omega
  have size : ∀ index < scheme.n, (blocks index).length = stripe.blockSize := by
    intro index indexInside
    rw [Stripe.length_of_get? (stored.present index indexInside), sound.blockSize_encodeStripe]
  refine ⟨blocks, ?_, ?_, ?_, keptOutside⟩
  · intro index isData
    rw [← keptOutside index (.inl isData)]
    exact stored.present index (isData.trans sound.k_lt_n)
  · intro index isParity indexInside
    refine ⟨_, stored.present index indexInside, size index indexInside, ?_⟩
    intro position
    refine (stored.codeword position index indexInside).trans (congrArg List.sum ?_)
    apply List.map_congr_left
    intro col isCol
    rw [sound.generates.get_eq index indexInside col (List.mem_range.mp isCol)]
  · intro group groupInside
    have parityInside : scheme.shape.localParity group < scheme.n := by
      rw [Shape.localParity, n, Shape.n]
      omega
    refine ⟨_, stored.present _ parityInside, ?_⟩
    intro position
    refine ((stored.codeword position).localParity groupInside).trans ?_
    exact (sound.shape.sum_groupData groupInside _).symm

/-- A stripe is encoded exactly if it holds all data.  Each parity then holds the product
of its row of the generator with the data, and nothing else has changed.  A stripe that
lacks data stays as it is, and its first missing data block is named. -/
theorem encodeStripe_encodes (constructed : scheme.Constructed) (stripe : Stripe) :
    ((scheme.encodeStripe stripe).outcome = .ok () ↔ stripe.HoldsData scheme.k) ∧
    (stripe.HoldsData scheme.k →
      ∃ blocks, scheme.Encodes stripe (scheme.encodeStripe stripe).stripe blocks) ∧
    (¬stripe.HoldsData scheme.k → ∃ index < scheme.k, stripe.contains index = false ∧
      (∀ smaller < index, stripe.contains smaller = true) ∧
      scheme.encodeStripe stripe = ⟨stripe, .error (.missingBlock index)⟩) := by
  have sound := constructed.sound
  refine ⟨⟨?_, fun data => (sound.encodeStripe data).1⟩, sound.exists_encodes,
    sound.encodeStripe_refused⟩
  intro succeeded
  by_contra missing
  obtain ⟨index, _, _, _, refused⟩ := sound.encodeStripe_refused missing
  rw [refused] at succeeded
  cases succeeded

/-- A code with one parity, which is not bound to any other: a stripe without its second
data block keeps its old parity, and one with both gets their sum. -/
theorem encodeStripe_encodes_single :
    ∃ (scheme : Scheme) (damaged whole : Stripe) (parity : Block),
      Scheme.flat 2 1 0 = .ok scheme ∧
      damaged.get? 0 = some [5] ∧ damaged.get? 2 = some [9] ∧
      scheme.encodeStripe damaged = ⟨damaged, .error (.missingBlock 1)⟩ ∧
      whole.get? 0 = some [5] ∧ whole.get? 1 = some [3] ∧ whole.get? 2 = some [9] ∧
      (scheme.encodeStripe whole).outcome = .ok () ∧
      (scheme.encodeStripe whole).stripe.get? 2 = some parity ∧
      Block.byte parity 0 = 5 + 3 := by
  obtain ⟨scheme, built, width, groups, size⟩ : ∃ scheme, Scheme.flat 2 1 0 = .ok scheme ∧
      scheme.k = 2 ∧ scheme.shape.l = 1 ∧ scheme.shape.b = 2 :=
    ⟨_, rfl, by decide⟩
  obtain ⟨whole, _, holds, held⟩ := Stripe.exists_holdsData
    (fun index => [([5, 3] : List GF256).getD index 9]) (fun _ => rfl) 3
  have first : whole.get? 0 = some [5] := held 0 (by decide)
  have second : whole.get? 1 = some [3] := held 1 (by decide)
  have third : whole.get? 2 = some [9] := held 2 (by decide)
  have damagedHolds : ∀ index, (whole.remove 1).contains index = true ↔
      index ≠ 1 ∧ whole.contains index = true := by
    intro index
    rw [Stripe.contains_iff, Stripe.get?_remove, Stripe.contains_iff]
    split_ifs with same
    · simp [same]
    · simp [Ne.symm same]
  have lacks : ¬(whole.remove 1).HoldsData scheme.k := fun data =>
    ((damagedHolds 1).mp (data 1 (by rw [width]; decide))).1 rfl
  obtain ⟨_, _, refused⟩ := encodeStripe_encodes (.flat built) (whole.remove 1)
  obtain ⟨index, isData, absent, _, stays⟩ := refused lacks
  have isSecond : index = 1 := by
    by_contra other
    rw [(damagedHolds index).mpr ⟨other, holds index (by omega)⟩] at absent
    cases absent
  obtain ⟨succeeds, encoded, _⟩ := encodeStripe_encodes (.flat built) whole
  have data : whole.HoldsData scheme.k := fun index isData => holds index (by omega)
  obtain ⟨blocks, encodes⟩ := encoded data
  obtain ⟨parity, isParity, sum⟩ := encodes.localParity 0 (by omega)
  have isFirst : blocks 0 = [5] := by
    simpa [first] using (encodes.data 0 (by omega)).symm
  have isOther : blocks 1 = [3] := by
    simpa [second] using (encodes.data 1 (by omega)).symm
  have atTwo : scheme.shape.localParity 0 = 2 := by
    rw [Shape.localParity, Nat.add_zero]
    exact width
  refine ⟨scheme, whole.remove 1, whole, parity, built, ?_, ?_, isSecond ▸ stays, first, second,
    third, succeeds.mpr data, atTwo ▸ isParity, ?_⟩
  · rw [Stripe.get?_remove, if_neg (by decide), first]
  · rw [Stripe.get?_remove, if_neg (by decide), third]
  · rw [sum 0, size, Nat.zero_mul]
    simp [List.range', isFirst, isOther, Block.byte]

end Scheme

end LocalRepair

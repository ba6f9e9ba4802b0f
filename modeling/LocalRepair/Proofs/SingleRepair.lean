import Mathlib
import LocalRepair.Recovery.Plan
import LocalRepair.Proofs.Restoration
import LocalRepair.Proofs.SystemEquations

/-!
# Repair of a single block

Each kind of block is a sum of other blocks in every codeword: a data block of the
rest of its local group and the parity, a local parity of its group, a global parity
of all data.  The repair graph of a block is the node of this sum, so it restores the
block from any encoded stripe that has lost nothing else it reads.
-/

namespace LocalRepair

namespace Shape

theorem Sound.sum_groupData {shape : Shape} (sound : shape.Sound) {group : Nat}
    (inside : group < shape.l) (value : Nat → GF256) :
    ((shape.groupData group).map value).sum =
      ((List.range shape.k).map fun col =>
        if col / shape.b = group then value col else 0).sum := by
  have groupDistinct : (shape.groupData group).Nodup := List.nodup_range'
  rw [sum_map_ite]
  apply List.Perm.sum_eq
  apply List.Perm.map
  rw [List.perm_ext_iff_of_nodup groupDistinct (List.nodup_range.filter _)]
  intro block
  rw [List.mem_filter, List.mem_range, sound.mem_groupData, decide_eq_true_eq]
  constructor
  · intro inGroup
    exact ⟨sound.groupData_inside inside (sound.mem_groupData.mpr inGroup), inGroup⟩
  · exact fun both => both.2

end Shape

namespace Scheme

variable {scheme : Scheme} {failed : Nat}

/-- A sum of different other blocks that gives a block in every codeword. -/
structure RepairSum (scheme : Scheme) (failed : Nat) (sources : List Nat)
    (coefficients : List GF256) : Prop where
  arity : sources.length = coefficients.length
  reads : sources ≠ []
  distinct : sources.Nodup
  others : ∀ source ∈ sources, source < scheme.n ∧ source ≠ failed
  balanced : ∀ value, scheme.shape.Codeword value →
    weightedSum sources coefficients value = value failed

/-! ## Data blocks -/

theorem localRepair_eq_join :
    scheme.localRepair failed = Graph.empty.join failed
      (scheme.localEquation [failed] (failed / scheme.shape.b)).sources
      (scheme.localEquation [failed] (failed / scheme.shape.b)).coefficients := by
  have others : (scheme.shape.groupData (failed / scheme.shape.b)).filter (· ≠ failed) =
      (scheme.shape.groupData (failed / scheme.shape.b)).filter (· ∉ [failed]) := by
    apply List.filter_congr
    intro block _
    simp
  rw [localRepair, sumGraph, others]
  rfl

private theorem localParity_survives (isData : failed < scheme.k) :
    scheme.shape.localParity (failed / scheme.shape.b) ∉ [failed] := by
  intro lost
  have beyond : scheme.k ≤ scheme.shape.localParity (failed / scheme.shape.b) :=
    Nat.le_add_right _ _
  rw [List.mem_singleton.mp lost] at beyond
  omega

theorem Sound.relates_local (sound : scheme.Sound) (isData : failed < scheme.k) :
    scheme.Relates [failed] (scheme.shape.localParity (failed / scheme.shape.b))
      (scheme.localEquation [failed] (failed / scheme.shape.b)) :=
  sound.relates_localEquation (sound.shape.group_lt isData) (localParity_survives isData)

/-- The sum of a local group reads what survives of it, the parity included. -/
theorem Sound.mem_sources_localEquation (sound : scheme.Sound) {domain : List Nat} {group : Nat}
    (inside : group < scheme.shape.l) (alive : scheme.shape.localParity group ∉ domain)
    {source : Nat} :
    source ∈ (scheme.localEquation domain group).sources ↔
      scheme.shape.localGroup? source = some group ∧ source ∉ domain := by
  rw [localGroup_eq_some_iff inside]
  constructor
  · intro read
    refine ⟨?_, ((sound.relates_localEquation inside alive).survive source read).2⟩
    rcases List.mem_append.mp read with inGroup | isParity
    · have member := (List.mem_filter.mp inGroup).1
      exact .inl ⟨sound.shape.groupData_inside inside member, sound.shape.mem_groupData.mp member⟩
    · exact .inr (List.mem_singleton.mp isParity)
  · rintro ⟨⟨_, inGroup⟩ | isParity, survives⟩
    · apply List.mem_append_left
      exact List.mem_filter.mpr ⟨sound.shape.mem_groupData.mpr inGroup, decide_eq_true survives⟩
    · exact List.mem_append_right _ (List.mem_singleton.mpr isParity)

theorem Sound.mem_localSources (sound : scheme.Sound) (isData : failed < scheme.k)
    {source : Nat} :
    source ∈ (scheme.localEquation [failed] (failed / scheme.shape.b)).sources ↔
      source ≠ failed ∧ scheme.shape.localGroup? source = some (failed / scheme.shape.b) := by
  rw [sound.mem_sources_localEquation (sound.shape.group_lt isData) (localParity_survives isData),
    List.mem_singleton, and_comm]

theorem Sound.weightedSum_local (sound : scheme.Sound) (isData : failed < scheme.k)
    {value : Nat → GF256} (codeword : scheme.shape.Codeword value) :
    weightedSum (scheme.localEquation [failed] (failed / scheme.shape.b)).sources
        (scheme.localEquation [failed] (failed / scheme.shape.b)).coefficients value =
      value failed := by
  have relates := sound.relates_local isData
  have lost : scheme.lostData [failed] = [failed] := by
    apply List.perm_singleton.mp
    rw [List.perm_ext_iff_of_nodup nodup_lostData (List.nodup_singleton failed)]
    intro block
    rw [mem_lostData, List.mem_singleton]
    constructor
    · exact fun both => both.2
    · rintro rfl
      exact ⟨isData, rfl⟩
  have inside := sound.shape.group_lt isData
  rw [relates.balanced value codeword, relates.unknowns, lost, weightedSum_map,
    List.map_singleton, List.sum_singleton, Shape.coefficient_localParity inside, if_pos rfl,
    one_mul]

theorem Sound.nodup_localSources (sound : scheme.Sound) (isData : failed < scheme.k) :
    (scheme.localEquation [failed] (failed / scheme.shape.b)).sources.Nodup := by
  have groupDistinct : (scheme.shape.groupData (failed / scheme.shape.b)).Nodup :=
    List.nodup_range'
  apply List.Nodup.append (groupDistinct.filter _) (List.nodup_singleton _)
  intro block isMember isParity
  have inGroup := (List.mem_filter.mp isMember).1
  have below := sound.shape.groupData_inside (sound.shape.group_lt isData) inGroup
  rw [List.mem_singleton.mp isParity] at below
  exact absurd below (Nat.not_lt.mpr (Nat.le_add_right _ _))

theorem Sound.length_localSources (sound : scheme.Sound) (failed : Nat) :
    (scheme.localEquation [failed] (failed / scheme.shape.b)).sources.length =
      scheme.shape.b := by
  have positive := sound.shape.b_pos
  have groupDistinct : (scheme.shape.groupData (failed / scheme.shape.b)).Nodup :=
    List.nodup_range'
  have member : failed ∈ scheme.shape.groupData (failed / scheme.shape.b) :=
    sound.shape.mem_groupData.mpr rfl
  have others : ((scheme.shape.groupData (failed / scheme.shape.b)).filter
      (· ∉ [failed])).length = scheme.shape.b - 1 := by
    have erased := List.length_erase_of_mem member
    rw [groupDistinct.erase_eq_filter, Shape.groupData, List.length_range'] at erased
    rw [← erased, Shape.groupData]
    congr 1
    apply List.filter_congr
    intro block _
    simp [bne, beq_eq_decide]
  rw [localEquation, List.length_append, others, List.length_singleton]
  omega

theorem Sound.repairSum_data (sound : scheme.Sound) (isData : failed < scheme.k) :
    scheme.RepairSum failed
      (scheme.localEquation [failed] (failed / scheme.shape.b)).sources
      (scheme.localEquation [failed] (failed / scheme.shape.b)).coefficients := by
  have relates := sound.relates_local isData
  refine ⟨relates.arity, relates.reads, sound.nodup_localSources isData, ?_, ?_⟩
  · intro source read
    obtain ⟨inside, survives⟩ := relates.survive source read
    exact ⟨inside, fun same => survives (List.mem_singleton.mpr same)⟩
  · intro value codeword
    exact sound.weightedSum_local isData codeword

/-! ## Parities -/

theorem Sound.repairSum_localParity (sound : scheme.Sound) {group : Nat}
    (inside : group < scheme.shape.l) :
    scheme.RepairSum (scheme.shape.localParity group) (scheme.shape.groupData group)
      ((scheme.shape.groupData group).map fun _ => 1) := by
  have positive := sound.shape.b_pos
  constructor
  · rw [List.length_map]
  · rw [← List.length_pos_iff, Shape.groupData, List.length_range']
    exact positive
  · exact List.nodup_range'
  · intro source read
    have isData := sound.shape.groupData_inside inside read
    refine ⟨Nat.lt_of_lt_of_le isData scheme.shape.k_le_n, ?_⟩
    rw [Shape.localParity]
    omega
  · intro value codeword
    rw [weightedSum_map, codeword.localParity inside, ← sound.shape.sum_groupData inside]
    simp only [one_mul]

theorem Sound.repairSum_globalParity (sound : scheme.Sound)
    (isParity : scheme.k ≤ failed) (inside : failed < scheme.n) :
    scheme.RepairSum failed (List.range scheme.k)
      ((List.range scheme.k).map (scheme.shape.coefficient failed)) := by
  constructor
  · rw [List.length_map]
  · rw [Ne, List.range_eq_nil]
    exact sound.shape.data
  · exact List.nodup_range
  · intro source read
    have isData := List.mem_range.mp read
    have width := sound.k_lt_n
    omega
  · intro value codeword
    rw [weightedSum_map]
    exact (codeword failed inside).symm

/-! ## Repair graphs -/

/-- The number of blocks that the repair of a block reads. -/
def repairWidth (scheme : Scheme) (failed : Nat) : Nat :=
  if failed < scheme.k + scheme.shape.l then scheme.shape.b else scheme.k

theorem Sound.singleRepair_eq_join (sound : scheme.Sound) (inside : failed < scheme.n) :
    ∃ sources coefficients, scheme.RepairSum failed sources coefficients ∧
      sources.length = scheme.repairWidth failed ∧
      scheme.singleRepair failed = Graph.empty.join failed sources coefficients := by
  by_cases isData : failed < scheme.k
  · refine ⟨_, _, sound.repairSum_data isData, ?_, ?_⟩
    · rw [repairWidth, if_pos (by omega), sound.length_localSources]
    · rw [singleRepair, ← k, if_pos isData, localRepair_eq_join]
  · by_cases isLocal : failed < scheme.k + scheme.shape.l
    · have groupInside : failed - scheme.k < scheme.shape.l := by omega
      have isParity : scheme.shape.localParity (failed - scheme.k) = failed := by
        rw [Shape.localParity, ← k]
        omega
      have repairSum := sound.repairSum_localParity groupInside
      rw [isParity] at repairSum
      refine ⟨_, _, repairSum, ?_, ?_⟩
      · rw [repairWidth, if_pos isLocal, Shape.groupData, List.length_range']
      · rw [singleRepair, ← k, if_neg isData, if_pos isLocal]
        rfl
    · refine ⟨_, _, sound.repairSum_globalParity (Nat.le_of_not_lt isData) inside, ?_, ?_⟩
      · rw [repairWidth, if_neg isLocal, List.length_range]
      · rw [singleRepair, ← k, if_neg isData, if_neg isLocal, sound.generator, Outcome.ok_bind,
          sound.generates.row_eq inside, Outcome.ok_bind]
        rfl

/-- Every block can be repaired, by one node that reads different other blocks. -/
theorem Sound.exists_singleRepair (sound : scheme.Sound) (inside : failed < scheme.n) :
    ∃ graph node, scheme.singleRepair failed = .ok graph ∧
      graph.nodes = [node] ∧ node.target = failed ∧ node.sources.Nodup ∧
      (∀ source ∈ node.sources, source < scheme.n ∧ source ≠ failed) ∧
      scheme.Recovers [failed] [failed] graph := by
  obtain ⟨sources, coefficients, repairSum, _, isJoin⟩ := sound.singleRepair_eq_join inside
  have readSources : (Node.ofLists failed sources coefficients).sources = sources :=
    Node.sources_ofLists failed repairSum.arity
  have notItself : failed ∉ sources := fun own => (repairSum.others failed own).2 rfl
  have survive : ∀ source ∈ sources, source < scheme.n ∧ source ∉ [failed] := by
    intro source read
    rw [List.mem_singleton]
    exact repairSum.others source read
  obtain ⟨graph, joined, recovers⟩ := exists_recovers_join inside repairSum.arity
    repairSum.reads notItself survive repairSum.balanced
  obtain ⟨_, _, _, _, isGraph⟩ := Graph.join_eq_ok_iff.mp joined
  refine ⟨graph, Node.ofLists failed sources coefficients, isJoin.trans joined, ?_, rfl, ?_, ?_,
    recovers⟩
  · rw [isGraph]
    rfl
  · rw [readSources]
    exact repairSum.distinct
  · rw [readSources]
    exact repairSum.others

theorem approach_of_flat (isFlat : scheme.kind = .flat) : scheme.approach = .repair := by
  rw [kind] at isFlat
  rw [approach]
  cases isLayout : scheme.layout with
  | flat => rfl
  | tradeoff eta choice => simp [isLayout, Layout.kind] at isFlat
  | optimizedRepair choice => simp [isLayout, Layout.kind] at isFlat
  | optimizedMaintenance choice => simp [isLayout, Layout.kind] at isFlat

theorem find?_outside_eq_none {available : List Nat}
    (inside : ∀ block ∈ failed :: available, block < scheme.n) :
    (failed :: available).find? (scheme.n ≤ ·) = none := by
  rw [List.find?_eq_none]
  intro block named
  simpa using inside block named

theorem planDecode_of_singleRepair (repairs : scheme.approach = .repair)
    {available : List Nat} (inside : ∀ block ∈ failed :: available, block < scheme.n)
    {graph : Graph} (repaired : scheme.singleRepair failed = .ok graph) :
    scheme.planDecode available [failed] = .ok ⟨.singleRepair, graph⟩ := by
  rw [planDecode, planBlock, find?_outside_eq_none inside, repairs]
  dsimp only
  rw [repaired]
  rfl

/-- Where the approach is repair, the plan for any block is one node that reads
different other blocks, and it brings the block back as it was encoded. -/
theorem planDecode_restores_single (constructed : scheme.Constructed)
    (repairs : scheme.kind = .flat ∨ scheme.approach = .repair) (inside : failed < scheme.n)
    {available : List Nat} (availableInside : ∀ block ∈ available, block < scheme.n) :
    ∃ plan node, scheme.planDecode available [failed] = .ok plan ∧
      plan.strategy = .singleRepair ∧ plan.graph.nodes = [node] ∧ node.target = failed ∧
      node.sources.Nodup ∧ (∀ source ∈ node.sources, source < scheme.n ∧ source ≠ failed) ∧
      ∀ stripe : Stripe, stripe.HoldsData scheme.k →
        (scheme.encodeStripe stripe).outcome = .ok () ∧
          (scheme.apply plan.graph
            ((scheme.encodeStripe stripe).stripe.remove failed)).Restores
              ((scheme.encodeStripe stripe).stripe.remove failed)
              (scheme.encodeStripe stripe).stripe [failed] := by
  have sound := constructed.sound
  have isRepair : scheme.approach = .repair := repairs.elim approach_of_flat id
  obtain ⟨graph, node, repaired, single, target, distinct, others, recovers⟩ :=
    sound.exists_singleRepair inside
  refine ⟨⟨.singleRepair, graph⟩, node, ?_, rfl, single, target, distinct, others, ?_⟩
  · exact planDecode_of_singleRepair isRepair
      (List.forall_mem_cons.mpr ⟨inside, availableInside⟩) repaired
  · intro stripe data
    exact sound.restores_encoded recovers data

/-- The second global parity of a tunable scheme is encoded again. -/
theorem planDecode_restores_single_parity :
    ∃ scheme plan node stripe, Scheme.tradeoff 4 2 2 1 .repair = .ok scheme ∧
      scheme.planDecode [6, 0] [7] = .ok plan ∧ plan.graph.nodes = [node] ∧
      node.target = 7 ∧ stripe.HoldsData 4 ∧
      (scheme.apply plan.graph ((scheme.encodeStripe stripe).stripe.remove 7)).Restores
        ((scheme.encodeStripe stripe).stripe.remove 7)
        (scheme.encodeStripe stripe).stripe [7] := by
  obtain ⟨scheme, built, repairs, width, blocks⟩ : ∃ scheme,
      Scheme.tradeoff 4 2 2 1 .repair = .ok scheme ∧ scheme.approach = .repair ∧
        scheme.k = 4 ∧ scheme.n = 8 :=
    ⟨_, rfl, by decide⟩
  obtain ⟨stripe, _, data, _⟩ := Stripe.exists_holdsData (fun _ => [7]) (fun _ => rfl) 4
  have inside : 7 < scheme.n := by
    rw [blocks]
    decide
  have availableInside : ∀ block ∈ [6, 0], block < scheme.n := by
    rw [blocks]
    decide
  obtain ⟨plan, node, success, _, single, target, _, _, restores⟩ :=
    planDecode_restores_single (.tradeoff built) (.inr repairs) inside availableInside
  exact ⟨scheme, plan, node, stripe, built, success, single, target, data,
    (restores stripe (width ▸ data)).2⟩

end Scheme

end LocalRepair

import Mathlib
import LocalRepair.Proofs.RecoveryGraph
import LocalRepair.Proofs.SingleRepair
import LocalRepair.Proofs.Tolerance
import LocalRepair.Proofs.TouchedDomains

/-!
# How many blocks a plan reads

The cost of a plan lists the blocks that it reads in ascending order, each once.  So a plan
for a single block reads as many blocks as its sum has terms, and a plan whose recovery
system takes a global parity reads as many blocks as there are data blocks: every survivor,
and one parity for each lost block.
-/

namespace LocalRepair

namespace ReadCost

theorem blocks_addSymbol (w symbol : Nat) (reads : List BlockRead) :
    (addSymbol w symbol reads).map BlockRead.block =
      if (reads.map BlockRead.block).head? = some (symbol / w) then reads.map BlockRead.block
      else symbol / w :: reads.map BlockRead.block := by
  cases reads with
  | nil => simp [addSymbol]
  | cons read rest =>
      by_cases same : read.block = symbol / w
      · simp [addSymbol, same]
      · simp [addSymbol, same]

theorem pairwise_blocks_readsOfSymbols {w : Nat} {symbols : List Nat}
    (ascending : symbols.Pairwise (· < ·)) :
    ((readsOfSymbols w symbols).map BlockRead.block).Pairwise (· < ·) := by
  induction symbols with
  | nil => simp [readsOfSymbols]
  | cons symbol rest ih =>
      rw [List.pairwise_cons] at ascending
      have restAscends := ih ascending.2
      have least : ∀ block ∈ (readsOfSymbols w rest).map BlockRead.block,
          symbol / w ≤ block := by
        intro block member
        obtain ⟨later, isLater, rfl⟩ := mem_blocks_readsOfSymbols.mp member
        exact Nat.div_le_div_right (Nat.le_of_lt (ascending.1 later isLater))
      rw [readsOfSymbols, List.foldr_cons, ← readsOfSymbols, blocks_addSymbol]
      split_ifs with same
      · exact restAscends
      · rw [List.pairwise_cons]
        refine ⟨?_, restAscends⟩
        intro block member
        -- a block that is not ahead would be the first one read
        cases isReads : (readsOfSymbols w rest).map BlockRead.block with
        | nil => simp [isReads] at member
        | cons first others =>
            rw [isReads] at least same member restAscends
            have different : first ≠ symbol / w := by simpa using same
            have before := least first List.mem_cons_self
            rcases List.mem_cons.mp member with rfl | later
            · omega
            · have after := (List.pairwise_cons.mp restAscends).1 block later
              omega

end ReadCost

namespace Scheme

variable {scheme : Scheme} {graph : Graph} {failed : Nat}

/-- The cost of a plan lists the inputs of its graph that are blocks of a stripe. -/
theorem Sound.blocks_planCost (sound : scheme.Sound) (addressable : scheme.Addressable)
    (graph : Graph) :
    (scheme.planCost graph).reads.map BlockRead.block =
      graph.inputs.filter (· < scheme.n) := by
  have readsAscend : ((scheme.planCost graph).reads.map BlockRead.block).Pairwise (· < ·) :=
    ReadCost.pairwise_blocks_readsOfSymbols (Ascending.pairwise_ofList _)
  have inputsAscend : (graph.inputs.filter (· < scheme.n)).Pairwise (· < ·) :=
    graph.pairwise_inputs.filter _
  apply eq_of_ascending readsAscend inputsAscend
  intro block
  rw [sound.mem_blocks_planCost addressable, List.mem_filter, decide_eq_true_eq]

theorem Sound.blocksRead_eq (sound : scheme.Sound) (addressable : scheme.Addressable)
    (inside : ∀ index ∈ graph.inputs, index < scheme.n) :
    (scheme.planCost graph).blocksRead = graph.inputs.length := by
  have all : graph.inputs.filter (· < scheme.n) = graph.inputs := by
    rw [List.filter_eq_self]
    intro index member
    exact decide_eq_true (inside index member)
  rw [ReadCost.blocksRead, ← List.length_map (f := BlockRead.block),
    sound.blocks_planCost addressable, all]

theorem length_inputs_single {target : Nat} {sources : List Nat} {coefficients : List GF256}
    (arity : sources.length = coefficients.length) (notItself : target ∉ sources)
    (distinct : sources.Nodup) :
    (Graph.inputs ⟨[Node.ofLists target sources coefficients], []⟩).length =
      sources.length := by
  apply List.Perm.length_eq
  rw [List.perm_ext_iff_of_nodup ((Graph.pairwise_inputs _).imp Nat.ne_of_lt) distinct]
  intro index
  exact mem_inputs_single arity notItself

theorem Sound.blocksRead_singleRepair (sound : scheme.Sound) (addressable : scheme.Addressable)
    (inside : failed < scheme.n)
    (repaired : scheme.singleRepair failed = .ok graph) :
    (scheme.planCost graph).blocksRead = scheme.repairWidth failed := by
  obtain ⟨sources, coefficients, repairSum, width, isJoin⟩ := sound.singleRepair_eq_join inside
  rw [isJoin] at repaired
  obtain ⟨_, arity, notItself, _, rfl⟩ := Graph.join_eq_ok_iff.mp repaired
  have reads : ∀ index ∈ Graph.inputs ⟨[Node.ofLists failed sources coefficients], []⟩,
      index < scheme.n := by
    intro index isInput
    exact (repairSum.others index ((mem_inputs_single arity notItself).mp isInput)).1
  rw [← width, ← length_inputs_single arity notItself repairSum.distinct]
  exact sound.blocksRead_eq addressable reads

theorem Sound.blocksRead_localRepair (sound : scheme.Sound) (addressable : scheme.Addressable)
    (isData : failed < scheme.k)
    (repaired : scheme.localRepair failed = .ok graph) :
    (scheme.planCost graph).blocksRead = scheme.shape.b := by
  have inside := isData.trans sound.k_lt_n
  have isSingle : scheme.singleRepair failed = .ok graph := by
    rw [singleRepair, ← k, if_pos isData, repaired]
  rw [sound.blocksRead_singleRepair addressable inside isSingle, repairWidth, if_pos (by omega)]

section

variable {domain targets : List Nat} {system : RecoverySystem} {inverse : DenseMatrix}

/-- A system that is returned has the equation of each parity used once. -/
theorem Sound.equations_perm (sound : scheme.Sound)
    (success : scheme.recoverySystem domain = .ok system) :
    scheme.Supplied domain ∧
      system.equations.Perm
        (((scheme.survivingGlobals domain).take
            (scheme.demand domain (List.range scheme.shape.l))).map
              (scheme.parityEquation domain) ++
          ((List.range scheme.shape.l).filter (scheme.keepsParity domain)).map
            (scheme.localEquation domain)) := by
  have globalsInside := fun parity (member : parity ∈ scheme.survivingGlobals domain) =>
    lt_of_mem_survivingGlobals member
  rw [sound.recoverySystem_eq] at success
  dsimp only at success
  rw [Outcome.bind_eq_ok_iff] at success
  obtain ⟨equations, equationsOk, success⟩ := success
  rw [Outcome.bind_eq_ok_iff] at success
  obtain ⟨_, _, same⟩ := success
  cases same
  have supplied : scheme.Supplied domain := by
    by_contra short
    obtain ⟨group, refused⟩ :=
      sound.allEquations_eq_error globalsInside (Nat.lt_of_not_le short)
    rw [equationsOk] at refused
    cases refused
  obtain ⟨found, foundOk, permutation⟩ := sound.allEquations_eq_ok globalsInside supplied
  rw [equationsOk, Except.ok.injEq] at foundOk
  exact ⟨supplied, foundOk ▸ permutation⟩

theorem Sound.length_usedParities (sound : scheme.Sound)
    (success : scheme.recoverySystem domain = .ok system) :
    (scheme.usedParities domain).length = (scheme.lostData domain).length := by
  have permutation := (sound.equations_perm success).2
  rw [← (sound.systemOf_recoverySystem success).length_eq, permutation.length_eq,
    usedParities, List.length_append, List.length_append, List.length_map, List.length_map,
    List.length_map]

theorem nodup_usedParities : (scheme.usedParities domain).Nodup := by
  have globalsDistinct : ((scheme.survivingGlobals domain).take
      (scheme.demand domain (List.range scheme.shape.l))).Nodup :=
    nodup_survivingGlobals.sublist (List.take_sublist _ _)
  have groupsDistinct : ((List.range scheme.shape.l).filter
      (scheme.keepsParity domain)).Nodup :=
    List.nodup_range.filter _
  have localsDistinct : (((List.range scheme.shape.l).filter
      (scheme.keepsParity domain)).map scheme.shape.localParity).Nodup := by
    apply groupsDistinct.map
    intro left right same
    exact Nat.add_left_cancel same
  apply globalsDistinct.append localsDistinct
  intro parity isGlobal isLocal
  have survives := (List.mem_filter.mp (List.mem_of_mem_take isGlobal)).1
  obtain ⟨group, groupMember, rfl⟩ := List.mem_map.mp isLocal
  have inside := List.mem_range.mp (List.mem_filter.mp groupMember).1
  have beyond := (Shape.mem_globalParities.mp survives).1
  rw [Shape.localParity] at beyond
  omega

theorem length_lostData_add_length_survivingData (scheme : Scheme) (domain : List Nat) :
    (scheme.lostData domain).length + (scheme.survivingData domain).length = scheme.k := by
  have divided := List.length_eq_length_filter_add (l := List.range scheme.k)
    fun block => decide (block ∈ domain)
  have others : scheme.survivingData domain =
      (List.range scheme.k).filter fun block => !decide (block ∈ domain) := by
    apply List.filter_congr
    intro block _
    simp
  rw [lostData, others, ← divided, List.length_range]

theorem SystemOf.mem_inputs_iff (systemOf : scheme.SystemOf domain system)
    (lost : ∀ target ∈ targets, target ∈ system.lost) {index : Nat} :
    index ∈ (scheme.recoveryGraph system inverse targets).inputs ↔
      ∃ equation ∈ system.equations, index ∈ equation.sources := by
  rw [systemOf.mem_inputs_recoveryGraph lost]
  constructor
  · rintro ⟨item, member, read⟩
    rw [systemOf.equationNode_sources member] at read
    exact ⟨item.2, (List.of_mem_zip member).2, read⟩
  · rintro ⟨equation, member, read⟩
    obtain ⟨row, inside, rfl⟩ := List.mem_iff_getElem.mp member
    have isItem := systemOf.mem_items.mpr ⟨row, inside, rfl⟩
    refine ⟨_, isItem, ?_⟩
    rw [systemOf.equationNode_sources isItem]
    exact read

theorem Sound.demand_pos (sound : scheme.Sound) {group : Nat}
    (heavy : 2 ≤ (scheme.groupMembers domain group).length) :
    0 < scheme.demand domain (List.range scheme.shape.l) := by
  obtain ⟨block, isMember⟩ := List.exists_mem_of_length_pos
    (Nat.lt_of_lt_of_le Nat.zero_lt_two heavy)
  have inside := sound.localGroup_lt (mem_groupMembers.mp isMember).2
  have some : scheme.needed domain group ∈
      (List.range scheme.shape.l).map (scheme.needed domain) :=
    List.mem_map_of_mem (List.mem_range.mpr inside)
  have part := List.le_sum_of_mem some
  rw [demand]
  rw [needed] at part
  omega

/-- A system that takes a global parity reads all surviving data and the parities used. -/
theorem Sound.mem_sources_iff (sound : scheme.Sound)
    (success : scheme.recoverySystem domain = .ok system) {group : Nat}
    (heavy : 2 ≤ (scheme.groupMembers domain group).length) {index : Nat} :
    (∃ equation ∈ system.equations, index ∈ equation.sources) ↔
      index ∈ scheme.survivingData domain ++ scheme.usedParities domain := by
  obtain ⟨supplied, permutation⟩ := sound.equations_perm success
  have some := sound.demand_pos heavy
  rw [List.mem_append, usedParities, List.mem_append]
  constructor
  · rintro ⟨equation, member, read⟩
    rcases List.mem_append.mp (permutation.mem_iff.mp member) with isGlobal | isLocal
    · obtain ⟨parity, parityMember, rfl⟩ := List.mem_map.mp isGlobal
      rcases List.mem_append.mp read with survivor | isParity
      · exact .inl survivor
      · rw [List.mem_singleton.mp isParity]
        exact .inr (.inl parityMember)
    · obtain ⟨other, otherMember, rfl⟩ := List.mem_map.mp isLocal
      have inside := List.mem_range.mp (List.mem_filter.mp otherMember).1
      rcases List.mem_append.mp read with survivor | isParity
      · obtain ⟨inGroup, alive⟩ := List.mem_filter.mp survivor
        exact .inl (mem_survivingData.mpr
          ⟨sound.shape.groupData_inside inside inGroup, of_decide_eq_true alive⟩)
      · rw [List.mem_singleton.mp isParity]
        exact .inr (.inr (List.mem_map_of_mem otherMember))
  · have fromGlobal : ∀ parity ∈ (scheme.survivingGlobals domain).take
        (scheme.demand domain (List.range scheme.shape.l)),
          scheme.parityEquation domain parity ∈ system.equations := by
      intro parity member
      exact permutation.mem_iff.mpr (List.mem_append_left _ (List.mem_map_of_mem member))
    rintro (survivor | isGlobal | isLocal)
    · obtain ⟨parity, member⟩ : ∃ parity, parity ∈ (scheme.survivingGlobals domain).take
          (scheme.demand domain (List.range scheme.shape.l)) := by
        apply List.exists_mem_of_length_pos
        rw [List.length_take, Nat.min_eq_left supplied]
        exact some
      exact ⟨_, fromGlobal parity member, List.mem_append_left _ survivor⟩
    · exact ⟨_, fromGlobal index isGlobal, List.mem_append_right _ (List.mem_singleton_self _)⟩
    · obtain ⟨other, otherMember, rfl⟩ := List.mem_map.mp isLocal
      exact ⟨scheme.localEquation domain other,
        permutation.mem_iff.mpr (List.mem_append_right _ (List.mem_map_of_mem otherMember)),
        List.mem_append_right _ (List.mem_singleton_self _)⟩

/-- A recovery that takes a global parity reads as many blocks as there are data blocks,
whatever the targets. -/
theorem Sound.length_inputs_recoverTargets (sound : scheme.Sound)
    (success : scheme.recoverTargets domain targets = .ok graph) {group : Nat}
    (heavy : 2 ≤ (scheme.groupMembers domain group).length) :
    graph.inputs.length = scheme.k := by
  obtain ⟨system, inverse, systemOk, _, systemOf, _, lost, rfl, _⟩ :=
    sound.recoverTargets_eq_recoveryGraph success
  have survivorsDistinct : (scheme.survivingData domain).Nodup := List.nodup_range.filter _
  have distinct : (scheme.survivingData domain ++ scheme.usedParities domain).Nodup := by
    apply survivorsDistinct.append nodup_usedParities
    intro block survivor used
    obtain ⟨isData, _⟩ := mem_survivingData.mp survivor
    rcases List.mem_append.mp used with isGlobal | isLocal
    · have survives := (List.mem_filter.mp (List.mem_of_mem_take isGlobal)).1
      have beyond := (Shape.mem_globalParities.mp survives).1
      rw [k] at isData
      omega
    · obtain ⟨other, _, rfl⟩ := List.mem_map.mp isLocal
      exact absurd isData (Nat.not_lt.mpr (Nat.le_add_right _ _))
  have inputs : (scheme.recoveryGraph system inverse targets).inputs.Perm
      (scheme.survivingData domain ++ scheme.usedParities domain) := by
    rw [List.perm_ext_iff_of_nodup ((Graph.pairwise_inputs _).imp Nat.ne_of_lt) distinct]
    intro index
    rw [systemOf.mem_inputs_iff lost, sound.mem_sources_iff systemOk heavy]
  rw [inputs.length_eq, List.length_append, sound.length_usedParities systemOk, Nat.add_comm]
  exact length_lostData_add_length_survivingData scheme domain

end

end Scheme

end LocalRepair

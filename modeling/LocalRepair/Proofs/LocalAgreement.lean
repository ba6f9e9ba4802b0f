import Mathlib
import LocalRepair.Proofs.Maintenance
import LocalRepair.Proofs.ReadBlocks

/-!
# Agreement of recovery and local repair

Where a domain takes a single entry out of a local group, the equation of the group has
that block as its only unknown, so every recovery of the block comes to the sum of its
local repair.  This holds for any contents of the blocks read, also where no encoding
gives them.
-/

namespace LocalRepair.Scheme

variable {scheme : Scheme} {domain targets : List Nat} {system : RecoverySystem}
  {inverse : DenseMatrix} {failed : Nat}

section

variable (alone : scheme.groupMembers domain (failed / scheme.shape.b) = [failed])

include alone

theorem mem_domain_iff_of_alone {block : Nat}
    (inGroup : scheme.shape.localGroup? block = some (failed / scheme.shape.b)) :
    block ∈ domain ↔ block = failed := by
  have member : block ∈ scheme.groupMembers domain (failed / scheme.shape.b) ↔ block ∈ domain := by
    simp [mem_groupMembers, inGroup]
  rw [← member, alone, List.mem_singleton]

theorem Sound.sources_of_alone (sound : scheme.Sound) (isData : failed < scheme.k) :
    (scheme.localEquation domain (failed / scheme.shape.b)).sources =
      (scheme.localEquation [failed] (failed / scheme.shape.b)).sources := by
  have inside := sound.shape.group_lt isData
  have survivors : (scheme.shape.groupData (failed / scheme.shape.b)).filter (· ∉ domain) =
      (scheme.shape.groupData (failed / scheme.shape.b)).filter (· ∉ [failed]) := by
    apply List.filter_congr
    intro block member
    have inGroup := (localGroup_eq_some_iff inside).mpr
      (.inl ⟨sound.shape.groupData_inside inside member, sound.shape.mem_groupData.mp member⟩)
    simp [mem_domain_iff_of_alone alone inGroup]
  exact congrArg (· ++ [scheme.shape.localParity (failed / scheme.shape.b)]) survivors

theorem Sound.coefficients_of_alone (sound : scheme.Sound) (isData : failed < scheme.k) :
    (scheme.localEquation domain (failed / scheme.shape.b)).coefficients =
      (scheme.localEquation [failed] (failed / scheme.shape.b)).coefficients :=
  congrArg (List.map fun _ => (1 : GF256)) (sound.sources_of_alone alone isData)

theorem weightedSum_unknowns_of_alone (isData : failed < scheme.k) (value : Nat → GF256) :
    weightedSum (scheme.lostData domain)
        (scheme.localEquation domain (failed / scheme.shape.b)).unknowns value =
      value failed := by
  have member : failed ∈ domain :=
    (mem_domain_iff_of_alone alone (localGroup_of_isData isData)).mpr rfl
  have only : scheme.lostOfGroup domain (failed / scheme.shape.b) = [failed] := by
    apply List.perm_singleton.mp
    rw [List.perm_ext_iff_of_nodup nodup_lostOfGroup (List.nodup_singleton failed)]
    intro block
    rw [mem_lostOfGroup, List.mem_singleton]
    constructor
    · rintro ⟨blockIsData, inDomain, sameGroup⟩
      have inGroup := localGroup_of_isData blockIsData
      rw [sameGroup] at inGroup
      exact (mem_domain_iff_of_alone alone inGroup).mp inDomain
    · rintro rfl
      exact ⟨isData, member, rfl⟩
  calc
    weightedSum (scheme.lostData domain)
          (scheme.localEquation domain (failed / scheme.shape.b)).unknowns value =
        ((scheme.lostData domain).map fun block =>
          if block / scheme.shape.b = failed / scheme.shape.b then value block else 0).sum := by
      simp [localEquation, weightedSum_map]
    _ = ((scheme.lostOfGroup domain (failed / scheme.shape.b)).map value).sum :=
      sum_map_ite _ _ _
    _ = value failed := by simp [only]

theorem Sound.localEquation_mem_of_alone (sound : scheme.Sound) (isData : failed < scheme.k)
    (systemOk : scheme.recoverySystem domain = .ok system) :
    scheme.localEquation domain (failed / scheme.shape.b) ∈ system.equations := by
  have inside := sound.shape.group_lt isData
  have keeps : scheme.keepsParity domain (failed / scheme.shape.b) = true := by
    rw [keepsParity_iff inside, alone]
    refine ⟨List.cons_ne_nil _ _, ?_⟩
    intro parityLost
    have same := (mem_domain_iff_of_alone alone (Shape.localGroup_localParity inside)).mp parityLost
    have beyond : scheme.k ≤ scheme.shape.localParity (failed / scheme.shape.b) :=
      Nat.le_add_right _ _
    omega
  obtain ⟨_, permutation⟩ := sound.equations_perm systemOk
  apply permutation.mem_iff.mpr
  apply List.mem_append_right
  apply List.mem_map_of_mem
  exact List.mem_filter.mpr ⟨List.mem_range.mpr inside, keeps⟩

theorem Sound.solution_of_alone (sound : scheme.Sound) (isData : failed < scheme.k)
    (systemOk : scheme.recoverySystem domain = .ok system)
    (inverseOk : invertSystem domain system = .ok inverse)
    (solves : scheme.Solves domain system inverse) (solution : Nat → GF256)
    (solved : ∀ node ∈ (scheme.recoveryGraph system inverse targets).nodes,
      solution node.target = node.value solution)
    (isTarget : failed ∈ targets) :
    solution failed =
      weightedSum (scheme.localEquation [failed] (failed / scheme.shape.b)).sources
        (scheme.localEquation [failed] (failed / scheme.shape.b)).coefficients solution := by
  have systemOf := sound.systemOf_recoverySystem systemOk
  obtain ⟨row, inside, isLocal⟩ :=
    List.mem_iff_getElem.mp (sound.localEquation_mem_of_alone alone isData systemOk)
  -- what the inverse makes of the values of the equations, for all lost blocks
  let value (block : Nat) := inverse.rowProduct (lostPosition system block) fun row =>
    solution (scheme.n + row)
  have expressed : ∀ position < (scheme.lostData domain).length,
      value ((scheme.lostData domain).getD position 0) =
        inverse.rowProduct position fun row => solution (scheme.n + row) := by
    intro position positionInside
    have distinct : system.lost.Nodup := systemOf.lost_eq ▸ nodup_lostData
    rw [← systemOf.lost_eq] at positionInside ⊢
    simp only [value, lostPosition_getD distinct positionInside]
  have satisfied := systemOf.satisfies_of_invertSystem inverseOk expressed inside
  rw [isLocal, weightedSum_unknowns_of_alone alone isData] at satisfied
  calc
    solution failed = value failed :=
      solution_target (systemOf.lost_eq ▸ solves.square) solved isTarget
    _ = solution (scheme.n + row) := satisfied
    _ = weightedSum system.equations[row].sources system.equations[row].coefficients solution :=
      systemOf.solution_virtual solved inside
    _ = weightedSum (scheme.localEquation [failed] (failed / scheme.shape.b)).sources
        (scheme.localEquation [failed] (failed / scheme.shape.b)).coefficients solution := by
      rw [isLocal, sound.sources_of_alone alone isData, sound.coefficients_of_alone alone isData]

theorem Sound.localSources_inputs (sound : scheme.Sound) (isData : failed < scheme.k)
    (systemOk : scheme.recoverySystem domain = .ok system)
    (lost : ∀ target ∈ targets, target ∈ system.lost) {source : Nat}
    (read : source ∈ (scheme.localEquation [failed] (failed / scheme.shape.b)).sources) :
    source ∈ (scheme.recoveryGraph system inverse targets).inputs := by
  have systemOf := sound.systemOf_recoverySystem systemOk
  apply (systemOf.mem_inputs_iff lost).mpr
  refine ⟨_, sound.localEquation_mem_of_alone alone isData systemOk, ?_⟩
  rw [sound.sources_of_alone alone isData]
  exact read

end

/-- The node of the local repair. -/
def localNode (scheme : Scheme) (failed : Nat) : Node :=
  equationNode (failed, scheme.localEquation [failed] (failed / scheme.shape.b))

theorem Sound.sources_localNode (sound : scheme.Sound) (isData : failed < scheme.k) :
    (scheme.localNode failed).sources =
      (scheme.localEquation [failed] (failed / scheme.shape.b)).sources :=
  Node.sources_ofLists failed (sound.repairSum_data isData).arity

theorem Sound.coefficients_localNode (sound : scheme.Sound) (isData : failed < scheme.k) :
    (scheme.localNode failed).coefficients =
      (scheme.localEquation [failed] (failed / scheme.shape.b)).sources.map fun _ => 1 :=
  Node.coefficients_ofLists failed (sound.repairSum_data isData).arity

theorem Sound.recovers_localNode (sound : scheme.Sound) (isData : failed < scheme.k) :
    scheme.localRepair failed = .ok ⟨[scheme.localNode failed], []⟩ ∧
      scheme.Recovers [failed] [failed] ⟨[scheme.localNode failed], []⟩ := by
  have alone : scheme.losesSibling [failed] failed = false := by simp [losesSibling]
  obtain ⟨graph, repaired, recovers⟩ := sound.recovers_localRepair isData alone
  have joined := repaired
  rw [localRepair_eq_join, Graph.join_eq_ok_iff] at joined
  obtain ⟨_, _, _, _, isGraph⟩ := joined
  subst isGraph
  exact ⟨repaired, recovers⟩

theorem weightedSum_localEquation {stripe : Stripe} {blocks : Nat → Block}
    (present : ∀ source ∈ (scheme.localEquation [failed] (failed / scheme.shape.b)).sources,
      stripe.get? source = some (blocks source)) (position : Nat) :
    weightedSum (scheme.localEquation [failed] (failed / scheme.shape.b)).sources
        (scheme.localEquation [failed] (failed / scheme.shape.b)).coefficients
        (fun index => Block.byte (blocks index) position) =
      ((scheme.localEquation [failed] (failed / scheme.shape.b)).sources.map fun source =>
        Block.byte ((stripe.get? source).getD []) position).sum := by
  have coefficients : (scheme.localEquation [failed] (failed / scheme.shape.b)).coefficients =
      (scheme.localEquation [failed] (failed / scheme.shape.b)).sources.map fun _ => 1 := rfl
  rw [coefficients, weightedSum_map]
  congr 1
  apply List.map_congr_left
  intro source read
  simp [present source read]

theorem Sound.byte_localNode (sound : scheme.Sound) (isData : failed < scheme.k) {stripe : Stripe}
    {run : Run} {blocks : Nat → Block}
    (evaluation : Graph.Evaluation ⟨[scheme.localNode failed], []⟩ scheme.n stripe run blocks)
    (position : Nat) :
    Block.byte (blocks failed) position =
      ((scheme.localNode failed).sources.map fun source =>
        Block.byte ((stripe.get? source).getD []) position).sum := by
  have repairSum := sound.repairSum_data isData
  have present : ∀ source ∈ (scheme.localEquation [failed] (failed / scheme.shape.b)).sources,
      stripe.get? source = some (blocks source) := by
    intro source read
    apply evaluation.inputs
    exact (mem_inputs_single repairSum.arity fun own => (repairSum.others failed own).2 rfl).mpr
      read
  have sum := evaluation.sums _ (List.mem_singleton_self _) position
  rw [localNode, equationNode, Node.value_ofLists, weightedSum_localEquation present] at sum
  rw [sound.sources_localNode isData]
  exact sum

theorem Sound.byte_recoveryGraph (sound : scheme.Sound) (isData : failed < scheme.k)
    (alone : scheme.groupMembers domain (failed / scheme.shape.b) = [failed])
    (systemOk : scheme.recoverySystem domain = .ok system)
    (inverseOk : invertSystem domain system = .ok inverse)
    (solves : scheme.Solves domain system inverse)
    (lost : ∀ target ∈ targets, target ∈ system.lost) (isTarget : failed ∈ targets)
    {stripe : Stripe} {run : Run} {blocks : Nat → Block}
    (evaluation : (scheme.recoveryGraph system inverse targets).Evaluation scheme.n stripe run
      blocks)
    (position : Nat) :
    Block.byte (blocks failed) position =
      ((scheme.localNode failed).sources.map fun source =>
        Block.byte ((stripe.get? source).getD []) position).sum := by
  have sum := sound.solution_of_alone alone isData systemOk inverseOk solves
    (fun index => Block.byte (blocks index) position)
    (fun node member => evaluation.sums node member position) isTarget
  rw [weightedSum_localEquation fun source read =>
    evaluation.inputs source (sound.localSources_inputs alone isData systemOk lost read)] at sum
  rw [sound.sources_localNode isData]
  exact sum

/-- Where a domain takes a single entry out of the local group of a target, recovery and
local repair give the target the same bytes, the sum of the rest of its group and the local
parity, on every stripe that holds what recovery reads. -/
theorem recoverTargets_agrees_localRepair (constructed : scheme.Constructed) {graph : Graph}
    (success : scheme.recoverTargets domain targets = .ok graph) (isTarget : failed ∈ targets)
    (alone : scheme.groupMembers domain (failed / scheme.shape.b) = [failed]) :
    ∃ node : Node, scheme.localRepair failed = .ok ⟨[node], []⟩ ∧ node.target = failed ∧
      node.sources = (scheme.shape.groupData (failed / scheme.shape.b)).filter (· ≠ failed) ++
        [scheme.shape.localParity (failed / scheme.shape.b)] ∧
      node.coefficients = node.sources.map (fun _ => 1) ∧
      (∀ source ∈ node.sources, source ∈ graph.inputs) ∧
      ∀ stripe : Stripe, (∀ index ∈ graph.inputs, stripe.contains index = true) →
        (scheme.apply graph stripe).outcome = .ok () ∧
        (scheme.apply ⟨[node], []⟩ stripe).outcome = .ok () ∧
        ∃ block : Block, block.length = stripe.blockSize ∧
          (∀ position, Block.byte block position = (node.sources.map fun source =>
            Block.byte ((stripe.get? source).getD []) position).sum) ∧
          (scheme.apply graph stripe).stripe.get? failed = some block ∧
          (scheme.apply ⟨[node], []⟩ stripe).stripe.get? failed = some block := by
  have sound := constructed.sound
  have recovers := (sound.recovers_of_recoverTargets success).2
  obtain ⟨system, inverse, systemOk, inverseOk, systemOf, solves, lost, rfl, _⟩ :=
    sound.recoverTargets_eq_recoveryGraph success
  have isData : failed < scheme.k := by
    have isLost := lost failed isTarget
    rw [systemOf.lost_eq, mem_lostData] at isLost
    exact isLost.1
  obtain ⟨repaired, localRecovers⟩ := sound.recovers_localNode isData
  have sources := sound.sources_localNode isData
  have reads : ∀ source ∈ (scheme.localNode failed).sources,
      source ∈ (scheme.recoveryGraph system inverse targets).inputs := by
    intro source read
    rw [sources] at read
    exact sound.localSources_inputs alone isData systemOk lost read
  refine ⟨_, repaired, rfl, ?_, ?_, reads, ?_⟩
  · rw [sources, localEquation]
    simp
  · rw [sources]
    exact sound.coefficients_localNode isData
  · intro stripe present
    obtain ⟨blocks, evaluation⟩ := recovers.exists_evaluation present
    have localPresent : ∀ index ∈ Graph.inputs ⟨[scheme.localNode failed], []⟩,
        stripe.contains index = true := by
      intro index isInput
      obtain ⟨⟨node, member, read⟩, _⟩ := Graph.mem_inputs.mp isInput
      rw [List.mem_singleton.mp member] at read
      exact present index (reads index read)
    obtain ⟨localBlocks, localEvaluation⟩ := localRecovers.exists_evaluation localPresent
    obtain ⟨written, length⟩ := recovers.target_written evaluation isTarget
    obtain ⟨localWritten, localLength⟩ :=
      localRecovers.target_written localEvaluation (List.mem_singleton_self _)
    have bytes := fun position => sound.byte_recoveryGraph isData alone systemOk inverseOk solves
      lost isTarget evaluation position
    have same : localBlocks failed = blocks failed := by
      apply Block.eq_of_byte_eq (localLength.trans length.symm)
      intro position
      rw [bytes position, sound.byte_localNode isData localEvaluation]
    rw [same] at localWritten
    exact ⟨evaluation.outcome, localEvaluation.outcome, _, length, bytes, written, localWritten⟩

/-- Block 2 is lost with the two data blocks of the other group.  On a stripe that is no
encoding, recovery of blocks 2 and 0 gives block 2 the sum of blocks 3 and 5, as its local
repair does. -/
theorem recoverTargets_agrees_localRepair_squares :
    ∃ (scheme : Scheme) (graph : Graph) (node : Node) (stripe : Stripe) (block : Block),
      Scheme.tradeoff 4 2 1 1 .maintenance = .ok scheme ∧
      scheme.recoverTargets [0, 1, 2] [2, 0] = .ok graph ∧
      scheme.localRepair 2 = .ok ⟨[node], []⟩ ∧ node.sources = [3, 5] ∧
      (∀ index < 7, stripe.get? index = some [GF256.ofNat (index * index)]) ∧
      (scheme.apply graph stripe).stripe.get? 2 = some block ∧
      (scheme.apply ⟨[node], []⟩ stripe).stripe.get? 2 = some block ∧
      block.length = 1 ∧ Block.byte block 0 = GF256.ofNat 9 + GF256.ofNat 25 := by
  obtain ⟨scheme, built, width, alone, sources, solvable⟩ : ∃ scheme,
      Scheme.tradeoff 4 2 1 1 .maintenance = .ok scheme ∧ scheme.n = 7 ∧
        scheme.groupMembers [0, 1, 2] (2 / scheme.shape.b) = [2] ∧
        (scheme.shape.groupData (2 / scheme.shape.b)).filter (· ≠ 2) ++
          [scheme.shape.localParity (2 / scheme.shape.b)] = [3, 5] ∧
        (scheme.recoverTargets [0, 1, 2] [2, 0]).isOk = true :=
    ⟨_, rfl, by decide +kernel⟩
  obtain ⟨graph, success⟩ := Outcome.exists_of_isOk solvable
  have constructed : scheme.Constructed := .tradeoff built
  obtain ⟨node, repaired, _, reads, _, _, agrees⟩ :=
    recoverTargets_agrees_localRepair constructed success List.mem_cons_self alone
  rw [sources] at reads
  obtain ⟨stripe, size, holds, held⟩ := Stripe.exists_holdsData
    (fun index => [GF256.ofNat (index * index)]) (fun _ => rfl) 7
  have survive := (constructed.sound.recovers_of_recoverTargets success).2.survive
  obtain ⟨_, _, block, length, bytes, recovered, repairedBlock⟩ :=
    agrees stripe fun index isInput => holds index (width ▸ (survive index isInput).1)
  refine ⟨scheme, graph, node, stripe, block, built, success, repaired, reads, held, recovered,
    repairedBlock, length.trans size, ?_⟩
  rw [bytes, reads]
  simp [held, Block.byte]

end LocalRepair.Scheme

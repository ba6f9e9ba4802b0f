import Mathlib
import LocalRepair.Proofs.Measurement
import LocalRepair.Proofs.PlanAnswers
import LocalRepair.Proofs.ReadBlocks
import LocalRepair.Proofs.RepairSpread

/-!
# How many blocks maintenance reads

A plan within a local group reads as many blocks as the group has data, and every other
plan reads as many as the stripe has.  In a tunable placement the data blocks that need
the latter are those in clusters: the first `eta * (g + 1)` of each local group.
-/

namespace LocalRepair

theorem countP_lt_range (size threshold : Nat) :
    (List.range size).countP (· < threshold) = min size threshold := by
  induction size with
  | zero => simp
  | succ size ih =>
      rw [List.range_succ, List.countP_append, ih, List.countP_singleton]
      by_cases below : size < threshold
      · simp [below]
        omega
      · simp [below]
        omega

theorem countP_mod_lt (count size threshold : Nat) :
    (List.range (count * size)).countP (· % size < threshold) = count * min size threshold := by
  induction count with
  | zero => simp
  | succ count ih =>
      have last : (List.range size).countP (fun place =>
          (count * size + place) % size < threshold) = min size threshold := by
        rw [← countP_lt_range]
        apply List.countP_congr
        intro place member
        rw [Nat.mul_add_mod', Nat.mod_eq_of_lt (List.mem_range.mp member)]
      rw [Nat.add_one_mul, List.range_add, List.countP_append, ih, List.countP_map,
        Nat.add_one_mul]
      exact congrArg (_ + ·) last

theorem sum_map_ite_eq {α : Type} (items : List α) (property : α → Prop) [DecidablePred property]
    (first second : Nat) :
    (items.map fun item => if property item then first else second).sum =
      items.countP (property ·) * first + (items.length - items.countP (property ·)) * second := by
  induction items with
  | nil => simp
  | cons head tail ih =>
      have part : tail.countP (property ·) ≤ tail.length := List.countP_le_length
      by_cases holds : property head
      · simp [holds, ih, Nat.add_one_mul]
        omega
      · have rest : tail.length + 1 - tail.countP (property ·) =
            tail.length - tail.countP (property ·) + 1 := by omega
        simp [holds, ih, rest, Nat.add_one_mul]
        omega

namespace Placement

variable {shape : Shape} {group position : Nat}

theorem two_le_length_cluster (some : shape.g ≠ 0) (useful : position < maxEta shape.b shape.g) :
    2 ≤ (cluster shape group position).length := by
  have begun := lt_maxEta_iff.mp useful
  rw [cluster_eq, List.length_append, List.length_range', Nat.add_one_mul]
  split_ifs with room
  · rw [List.length_singleton]
    omega
  · rw [List.length_nil]
    omega

/-- The data blocks of a cluster have their places among those of its local group. -/
theorem mod_of_mem_cluster {block : Nat} (isData : block < shape.k)
    (member : block ∈ cluster shape group position) :
    position * (shape.g + 1) ≤ block % shape.b ∧
      block % shape.b < (position + 1) * (shape.g + 1) := by
  rw [cluster_eq, List.mem_append, List.mem_range'_1] at member
  rw [Nat.add_one_mul]
  rcases member with ⟨above, below⟩ | isParity
  · have inGroup : block / shape.b = group := by
      apply Nat.div_eq_of_lt_le
      · omega
      · rw [Nat.add_one_mul]
        omega
    have offset := Nat.div_add_mod' block shape.b
    rw [inGroup] at offset
    omega
  · split_ifs at isParity
    · have beyond : shape.k ≤ shape.localParity group := Nat.le_add_right _ _
      rw [List.mem_singleton.mp isParity] at isData
      omega
    · cases isParity

/-- A data block of a tunable placement is in a cluster, or in a stripe and then late in its
local group. -/
theorem tunable_data_cases (divides : shape.l ∣ shape.k) {eta : Nat} {domain : FaultDomain}
    (placed : domain ∈ (tunable shape eta).domains) {block : Nat} (isData : block < shape.k)
    (member : block ∈ domain) :
    (∃ group < shape.l, ∃ position < min eta (maxEta shape.b shape.g),
        domain = cluster shape group position) ∨
      (eta * (shape.g + 1) ≤ block % shape.b ∧ shape.Scattered domain) := by
  rw [domains, List.mem_append, List.mem_append, List.mem_append] at placed
  rcases placed with ((isCluster | isStripe) | isParities) | isGlobals
  · obtain ⟨group, groupMember, inGroup⟩ := List.mem_flatMap.mp isCluster
    obtain ⟨position, positionMember, rfl⟩ := List.mem_map.mp inGroup
    exact .inl ⟨group, List.mem_range.mp groupMember, position,
      List.mem_range.mp positionMember, rfl⟩
  · obtain ⟨offset, offsetMember, rfl⟩ := List.mem_map.mp isStripe
    obtain ⟨group, _, rfl⟩ := List.mem_map.mp member
    have inside : eta * (shape.g + 1) + offset < shape.b := by
      have := List.mem_range.mp offsetMember
      omega
    simp only [Nat.add_assoc]
    refine .inr ⟨?_, Shape.scattered_stripe divides inside⟩
    rw [Nat.mul_add_mod', Nat.mod_eq_of_lt inside]
    exact Nat.le_add_right _ _
  · unfold parityDomains at isParities
    split at isParities
    · cases isParities
    · rw [List.mem_singleton.mp isParities] at member
      obtain ⟨group, _, rfl⟩ := List.mem_map.mp member
      exact absurd isData (Nat.not_lt.mpr (Nat.le_add_right _ _))
  · rw [List.mem_singleton.mp isGlobals] at member
    have beyond := (Shape.mem_globalParities.mp member).1
    omega

end Placement

namespace Scheme

variable {scheme : Scheme} {failed eta : Nat} {domain : FaultDomain}

theorem siblingLost_of_confined (confined : scheme.shape.Confined domain)
    (distinct : domain.Nodup) (several : 2 ≤ domain.length) (member : failed ∈ domain) :
    scheme.SiblingLost domain failed := by
  obtain ⟨_, group, _, inGroup⟩ := confined
  by_contra alone
  have only : domain ⊆ [failed] := by
    intro block inDomain
    by_contra other
    refine alone ⟨block, inDomain, by simpa using other, ?_⟩
    rw [inGroup block inDomain, inGroup failed member]
  have few := distinct.length_le_of_subset only
  rw [List.length_singleton] at few
  omega

theorem not_siblingLost_of_scattered (scattered : scheme.shape.Scattered domain)
    (isData : failed < scheme.k) (member : failed ∈ domain) :
    ¬scheme.SiblingLost domain failed := by
  rintro ⟨sibling, inDomain, other, sameGroup⟩
  have ownGroup := localGroup_of_isData isData
  apply other
  apply scattered sibling inDomain failed member _ sameGroup
  simp [sameGroup, ownGroup]

/-- In a tunable placement the data blocks whose domains take out a sibling are the first
ones of each local group. -/
theorem Sound.siblingLost_iff (sound : scheme.Sound) {approach : Approach}
    (tunable : scheme.layout = .tradeoff eta approach) (isData : failed < scheme.k)
    (placed : domain ∈ scheme.domains) (member : failed ∈ domain) :
    scheme.SiblingLost domain failed ↔
      failed % scheme.shape.b < eta * (scheme.shape.g + 1) := by
  have distinct := sound.nodup_domain placed
  have someGlobal := (sound.tunable_checked tunable).1
  rw [domains, placement, tunable, Layout.placement] at placed
  rcases Placement.tunable_data_cases sound.shape.dvd placed isData member with
    ⟨group, groupInside, position, useful, rfl⟩ | ⟨late, scattered⟩
  · have early := (Placement.mod_of_mem_cluster isData member).2
    have within : (position + 1) * (scheme.shape.g + 1) ≤ eta * (scheme.shape.g + 1) := by
      apply Nat.mul_le_mul_right
      omega
    apply iff_of_true
    · exact siblingLost_of_confined
        (Shape.confined_cluster sound.shape.dvd groupInside position) distinct
        (Placement.two_le_length_cluster someGlobal (by omega)) member
    · exact Nat.lt_of_lt_of_le early within
  · exact iff_of_false (not_siblingLost_of_scattered scattered isData member)
      (Nat.not_lt.mpr late)

/-- The number of blocks that a plan for a block reads. -/
def planWidth (scheme : Scheme) (failed : Nat) : Strategy → Nat
  | .singleRepair => scheme.repairWidth failed
  | .localMaintenance => scheme.shape.b
  | .globalMaintenance => scheme.k

theorem SiblingLost.heavy (lost : scheme.SiblingLost domain failed) (isData : failed < scheme.k)
    (member : failed ∈ domain) :
    2 ≤ (scheme.groupMembers domain (failed / scheme.shape.b)).length := by
  obtain ⟨sibling, inDomain, other, sameGroup⟩ := lost
  have ownGroup := localGroup_of_isData isData
  have both : [sibling, failed] ⊆ scheme.groupMembers domain (failed / scheme.shape.b) := by
    intro block isOne
    rcases List.mem_pair.mp isOne with rfl | rfl
    · exact mem_groupMembers.mpr ⟨inDomain, sameGroup.trans ownGroup⟩
    · exact mem_groupMembers.mpr ⟨member, ownGroup⟩
  have distinct : [sibling, failed].Nodup := by simpa using other
  exact distinct.length_le_of_subset both

theorem Sound.blocksRead_planMaintenance (sound : scheme.Sound)
    (addressable : scheme.Addressable) (isData : failed < scheme.k) (member : failed ∈ domain)
    {plan : DecodePlan}
    (success : (if scheme.losesSibling domain failed then do
        pure ⟨.globalMaintenance, ← scheme.recoverTargets domain [failed]⟩
      else do
        pure ⟨.localMaintenance, ← scheme.localRepair failed⟩ :
          Except Error DecodePlan) = .ok plan) :
    (scheme.planCost plan.graph).blocksRead = scheme.planWidth failed plan.strategy := by
  split at success
  · rename_i sibling
    rw [Outcome.bind_eq_ok_iff] at success
    obtain ⟨graph, recovered, same⟩ := success
    cases same
    have survive := (sound.recovers_of_recoverTargets recovered).2.survive
    have heavy := ((losesSibling_iff isData).mp sibling).heavy isData member
    rw [sound.blocksRead_eq addressable fun index isInput => (survive index isInput).1]
    exact sound.length_inputs_recoverTargets recovered heavy
  · rw [Outcome.bind_eq_ok_iff] at success
    obtain ⟨graph, repaired, same⟩ := success
    cases same
    exact sound.blocksRead_localRepair addressable isData repaired

theorem Sound.blocksRead_takesOffline (sound : scheme.Sound)
    (addressable : scheme.Addressable) {available : List Nat}
    (offline : scheme.TakesOffline available failed domain)
    (quiet : ∀ block ∈ domain, block ≠ failed → block ∉ available) (isData : failed < scheme.k)
    {plan : DecodePlan} (success : scheme.planDecode available [failed] = .ok plan) :
    (scheme.planCost plan.graph).blocksRead = scheme.planWidth failed plan.strategy := by
  have planned := sound.planDecode_eq offline.maintains.2 offline.placed offline.member
    (List.forall_mem_cons.mp offline.inside).2
  rw [success, aliveMembers_eq_nil_iff.mpr quiet] at planned
  dsimp only at planned
  rw [Outcome.ensure_of rfl, Outcome.ok_bind, Outcome.ensure_of isData, Outcome.ok_bind]
    at planned
  exact sound.blocksRead_planMaintenance addressable isData offline.member planned.symm

/-- Every plan reads as many blocks as its strategy says. -/
theorem Sound.blocksRead_planDecode (sound : scheme.Sound) (addressable : scheme.Addressable)
    {available : List Nat}
    {plan : DecodePlan} (success : scheme.planDecode available [failed] = .ok plan) :
    (scheme.planCost plan.graph).blocksRead = scheme.planWidth failed plan.strategy := by
  have answered : scheme.answer available [failed] = .ok plan.strategy := by
    rw [answer, success]
    rfl
  have answers := sound.answer_eq_iff.mp answered
  generalize isStrategy : plan.strategy = strategy at answers ⊢
  cases answers with
  | repair inside repairs =>
      have failedInside := inside failed List.mem_cons_self
      obtain ⟨graph, _, repaired, _⟩ := sound.exists_singleRepair failedInside
      have planned :=
        planDecode_of_singleRepair (repairs.elim approach_of_flat id) inside repaired
      rw [success] at planned
      cases planned
      exact sound.blocksRead_singleRepair addressable failedInside repaired
  | sibling offline quiet isData _ =>
      exact isStrategy ▸
        sound.blocksRead_takesOffline addressable offline quiet isData success
  | alone offline quiet isData _ =>
      exact isStrategy ▸
        sound.blocksRead_takesOffline addressable offline quiet isData success

/-- In a tunable placement a data block of an offline domain is planned for globally exactly
if it is one of the first of its local group. -/
theorem Sound.exists_tunablePlan (sound : scheme.Sound)
    (tunable : scheme.layout = .tradeoff eta .maintenance) (isData : failed < scheme.k)
    (placed : domain ∈ scheme.domains) (member : failed ∈ domain) {available : List Nat}
    (inside : ∀ block ∈ available, block < scheme.n)
    (quiet : ∀ block ∈ domain, block ≠ failed → block ∉ available) :
    ∃ graph, scheme.planDecode available [failed] = .ok
        ⟨if failed % scheme.shape.b < eta * (scheme.shape.g + 1) then .globalMaintenance
          else .localMaintenance, graph⟩ ∧
      (if failed % scheme.shape.b < eta * (scheme.shape.g + 1) then
        scheme.recoverTargets domain [failed] else scheme.localRepair failed) = .ok graph := by
  have maintains : scheme.approach = .maintenance := by rw [approach, tunable, Layout.approach]
  obtain ⟨graph, success, made, _⟩ := sound.exists_planDecode_eq maintains isData placed member
    inside (aliveMembers_eq_nil_iff.mpr quiet)
  simp only [losesSibling_iff isData, sound.siblingLost_iff tunable isData placed member]
    at success made
  exact ⟨graph, success, made⟩

/-- What maintenance reads for all data blocks, of which those in clusters take as many
reads as there are data blocks, and the others as many as a local group has. -/
def maintenanceTotal (scheme : Scheme) (eta : Nat) : Nat :=
  let clustered := scheme.shape.l * min scheme.shape.b (eta * (scheme.shape.g + 1))
  clustered * scheme.k + (scheme.k - clustered) * scheme.shape.b

theorem Sound.sum_map_mod_lt (sound : scheme.Sound) (threshold first second : Nat) :
    ((List.range scheme.k).map fun failed =>
      if failed % scheme.shape.b < threshold then first else second).sum =
        scheme.shape.l * min scheme.shape.b threshold * first +
          (scheme.k - scheme.shape.l * min scheme.shape.b threshold) * second := by
  have early := countP_mod_lt scheme.shape.l scheme.shape.b threshold
  rw [sound.shape.groups_mul, ← k] at early
  rw [sum_map_ite_eq, early, List.length_range]

theorem Sound.exists_maintenancePlans (sound : scheme.Sound)
    (addressable : scheme.Addressable)
    (tunable : scheme.layout = .tradeoff eta .maintenance) :
    ∃ plans, scheme.measuredPlans = .ok plans ∧ plans.length = scheme.k ∧
      total DecodeReads.blocks
          (plans.map fun (position, plan) => scheme.planReads position plan) =
        scheme.maintenanceTotal eta := by
  have maintains : scheme.approach = .maintenance := by rw [approach, tunable, Layout.approach]
  have each : ∀ block < scheme.k, ∃ position plan,
      domainPosition? scheme.domains block = some position ∧
      scheme.planDecode (scheme.measuredAvailable block position) [block] = .ok plan ∧
      (scheme.planReads position plan).blocks =
        if block % scheme.shape.b < eta * (scheme.shape.g + 1) then scheme.k
        else scheme.shape.b := by
    intro block isData
    obtain ⟨home, domain, isDomain, member, placed, inside, quiet⟩ :=
      sound.exists_measuredDomain maintains isData
    obtain ⟨graph, success, _⟩ :=
      sound.exists_tunablePlan tunable isData isDomain member inside quiet
    refine ⟨home, _, placed, success, ?_⟩
    rw [planReads, sound.blocksRead_planDecode addressable success]
    split <;> rfl
  obtain ⟨plans, measured, count, sum⟩ := exists_measuredPlans scheme.planReads each
  exact ⟨plans, measured, count, sum.trans (sound.sum_map_mod_lt _ _ _)⟩

end Scheme

end LocalRepair

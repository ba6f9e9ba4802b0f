import Mathlib
import LocalRepair.Proofs.MaintenanceReads

/-!
# Transfers of combined blocks

A domain can add up what it contributes to a sum and send one block for it.  So a sum costs a
transfer from each domain that holds blocks it reads, however many, and a plan costs those of its
sums.  In a tunable placement the sum of a global parity reads from every domain with data and
from that of the global parities, and the sum of a local group from the domains that the group
spans.
-/

namespace LocalRepair

namespace Shape

/-- The number of domains from which the sum of a global parity reads while one with data is
offline. -/
def paritySpread (shape : Shape) (eta : Nat) : Nat :=
  shape.l * eta + (shape.b - eta * (shape.g + 1))

/-- The transfers for a data block whose domain is offline, by its place in the local group.  A
full cluster takes `g` global parities and the local one, a partial one a global parity for each
of its data blocks, and a block outside the clusters the local parity. -/
def maintenanceTransfers (shape : Shape) (eta place : Nat) : Nat :=
  if shape.b < eta * (shape.g + 1) then
    if place < (eta - 1) * (shape.g + 1) then
      shape.paritySpread eta * shape.g + shape.repairSpread eta
    else shape.paritySpread eta * (shape.b % (shape.g + 1))
  else if place < eta * (shape.g + 1) then
    shape.paritySpread eta * shape.g + shape.repairSpread eta
  else shape.repairSpread eta

end Shape

namespace Placement

variable {shape : Shape} {eta parity : Nat}

theorem countP_clusters_data (divides : shape.l ∣ shape.k) (eta : Nat) :
    ((clusters shape eta).countP fun domain =>
      ∃ block ∈ domain, block < shape.k ∨ block = parity) =
        shape.l * min eta (maxEta shape.b shape.g) := by
  have holds : ∀ domain ∈ clusters shape eta,
      ∃ block ∈ domain, block < shape.k ∨ block = parity := by
    intro domain member
    obtain ⟨group, groupMember, inGroup⟩ := List.mem_flatMap.mp member
    obtain ⟨position, positionMember, rfl⟩ := List.mem_map.mp inGroup
    have inside := List.mem_range.mp groupMember
    have begun := lt_maxEta_iff.mp
      (Nat.lt_of_lt_of_le (List.mem_range.mp positionMember) (Nat.min_le_right _ _))
    have first : group * shape.b + position * (shape.g + 1) ∈ cluster shape group position := by
      rw [cluster_eq, List.mem_append, List.mem_range'_1]
      omega
    have width : shape.l * shape.b = shape.k := Nat.mul_div_cancel' divides
    have room : (group + 1) * shape.b ≤ shape.l * shape.b := Nat.mul_le_mul_right _ inside
    rw [Nat.add_one_mul] at room
    exact ⟨_, first, .inl (by omega)⟩
  rw [List.countP_eq_length.mpr fun domain member => decide_eq_true (holds domain member),
    clusters, List.length_flatMap]
  simp

theorem countP_stripes_data (divides : shape.l ∣ shape.k) (some : 0 < shape.l) (eta : Nat) :
    ((stripes shape eta).countP fun domain =>
      ∃ block ∈ domain, block < shape.k ∨ block = parity) =
        shape.b - eta * (shape.g + 1) := by
  have holds : ∀ domain ∈ stripes shape eta,
      ∃ block ∈ domain, block < shape.k ∨ block = parity := by
    intro domain member
    obtain ⟨offset, offsetMember, rfl⟩ := List.mem_map.mp member
    have offsetInside := List.mem_range.mp offsetMember
    have width : shape.l * shape.b = shape.k := Nat.mul_div_cancel' divides
    have room : 1 * shape.b ≤ shape.l * shape.b := Nat.mul_le_mul_right _ some
    exact ⟨_, List.mem_map_of_mem (List.mem_range.mpr some), .inl (by omega)⟩
  rw [List.countP_eq_length.mpr fun domain member => decide_eq_true (holds domain member),
    stripes, List.length_map, List.length_range]

theorem countP_parityDomains_data (isGlobal : shape.k + shape.l ≤ parity) (eta : Nat) :
    ((parityDomains shape eta).countP fun domain =>
      ∃ block ∈ domain, block < shape.k ∨ block = parity) = 0 := by
  rw [List.countP_eq_zero]
  intro domain member
  rw [decide_eq_true_eq]
  rintro ⟨block, inDomain, isData⟩
  unfold parityDomains at member
  split at member
  · cases member
  · rw [List.mem_singleton.mp member] at inDomain
    obtain ⟨group, groupMember, rfl⟩ := List.mem_map.mp inDomain
    have inside := List.mem_range.mp groupMember
    rw [Shape.localParity] at isData
    omega

theorem countP_data (divides : shape.l ∣ shape.k) (some : 0 < shape.l)
    (useful : eta ≤ maxEta shape.b shape.g) (isGlobal : parity ∈ shape.globalParities) :
    ((tunable shape eta).domains.countP fun domain =>
      ∃ block ∈ domain, block < shape.k ∨ block = parity) = shape.paritySpread eta + 1 := by
  have holds : ∃ block ∈ shape.globalParities, block < shape.k ∨ block = parity :=
    ⟨parity, isGlobal, .inr rfl⟩
  rw [domains, List.countP_append, List.countP_append, List.countP_append,
    countP_clusters_data divides, countP_stripes_data divides some,
    countP_parityDomains_data (Shape.mem_globalParities.mp isGlobal).1, List.countP_singleton,
    if_pos (decide_eq_true holds), Nat.min_eq_left useful, Shape.paritySpread, Nat.add_zero]

end Placement

namespace Scheme

/-- The number of domains that hold one of the sources of a sum. -/
def spread (scheme : Scheme) (sources : List Nat) : Nat :=
  scheme.domains.countP fun domain => ∃ source ∈ sources, source ∈ domain

/-- The number of combined blocks that are transferred for the sums of a graph, one from each
domain that a sum reads from. -/
def transfers (scheme : Scheme) (graph : Graph) : Nat :=
  total (fun node => scheme.spread node.sources) graph.nodes

variable {scheme : Scheme} {home : FaultDomain} {eta : Nat}

/-- A sum of what survives of some blocks, of which a domain takes out one, reads from one
domain less than hold these blocks. -/
theorem Sound.spread_add_one (sound : scheme.Sound) (placed : home ∈ scheme.domains)
    {sources : List Nat} {needed : Nat → Prop} [DecidablePred needed]
    (isSource : ∀ block, block ∈ sources ↔ needed block ∧ block ∉ home)
    (lost : ∃ block ∈ home, needed block) :
    scheme.spread sources + 1 =
      scheme.domains.countP fun domain => ∃ block ∈ domain, needed block := by
  have order := List.perm_cons_erase placed
  have apart := (List.pairwise_cons.mp
    ((order.pairwise_iff List.Disjoint.symm).mp sound.disjoint_domains)).1
  have others : (scheme.domains.erase home).countP
        (fun domain => ∃ source ∈ sources, source ∈ domain) =
      (scheme.domains.erase home).countP fun domain => ∃ block ∈ domain, needed block := by
    apply List.countP_congr
    intro domain member
    simp only [decide_eq_true_eq]
    constructor
    · rintro ⟨source, read, inDomain⟩
      exact ⟨source, inDomain, ((isSource source).mp read).1⟩
    · rintro ⟨block, inDomain, isNeeded⟩
      exact ⟨block, (isSource block).mpr ⟨isNeeded, fun away => apart domain member away inDomain⟩,
        inDomain⟩
  have notHome : ¬∃ source ∈ sources, source ∈ home :=
    fun ⟨source, read, inHome⟩ => ((isSource source).mp read).2 inHome
  rw [spread, order.countP_eq, order.countP_eq, List.countP_cons, List.countP_cons, others,
    if_neg (by simpa using notHome), if_pos (by simpa using lost), Nat.add_zero]

section

variable (sound : scheme.Sound) {approach : Approach}
  (tunable : scheme.layout = .tradeoff eta approach) (placed : home ∈ scheme.domains)

include sound tunable placed

theorem Sound.spread_localSum {sources : List Nat} {group : Nat} (inside : group < scheme.shape.l)
    (isSource : ∀ block, block ∈ sources ↔
      scheme.shape.localGroup? block = some group ∧ block ∉ home)
    (lost : ∃ block ∈ home, scheme.shape.localGroup? block = some group) :
    scheme.spread sources = scheme.shape.repairSpread eta := by
  have counted := sound.spread_add_one placed isSource lost
  simp only [← Shape.mem_spannedGroups] at counted
  rw [domains, placement, tunable, Layout.placement, Placement.countP_spanned sound.shape.dvd
    inside (sound.tunable_checked tunable).2] at counted
  exact Nat.succ.inj counted

theorem Sound.spread_parityEquation {failed parity : Nat} (isData : failed < scheme.k)
    (member : failed ∈ home) (survives : parity ∈ scheme.survivingGlobals home) :
    scheme.spread (scheme.parityEquation home parity).sources =
      scheme.shape.paritySpread eta := by
  obtain ⟨isGlobal, alive⟩ := List.mem_filter.mp survives
  have isSource : ∀ block, block ∈ (scheme.parityEquation home parity).sources ↔
      (block < scheme.shape.k ∨ block = parity) ∧ block ∉ home := by
    intro block
    rw [parityEquation, List.mem_append, mem_survivingData, List.mem_singleton, or_and_right]
    apply or_congr Iff.rfl
    rw [iff_self_and]
    rintro rfl
    exact of_decide_eq_true alive
  have counted := sound.spread_add_one placed isSource ⟨failed, member, .inl isData⟩
  rw [domains, placement, tunable, Layout.placement, Placement.countP_data sound.shape.dvd
    (Nat.pos_of_ne_zero sound.shape.groups) (sound.tunable_checked tunable).2 isGlobal] at counted
  exact Nat.succ.inj counted

end

/-! ## The transfers of a recovery -/

section

variable {targets : List Nat} {system : RecoverySystem} {inverse : DenseMatrix} {graph : Graph}

theorem Sound.spread_virtuals (sound : scheme.Sound) (system : RecoverySystem) :
    scheme.spread (scheme.virtuals system) = 0 := by
  rw [spread, List.countP_eq_zero]
  intro domain placed
  rw [decide_eq_true_eq]
  rintro ⟨index, isVirtual, member⟩
  have beyond := (mem_virtuals.mp isVirtual).1
  have inside := sound.lt_of_mem_domain placed member
  omega

theorem Sound.transfers_recoveryGraph (sound : scheme.Sound)
    (systemOf : scheme.SystemOf home system) :
    scheme.transfers (scheme.recoveryGraph system inverse targets) =
      (system.equations.map fun equation => scheme.spread equation.sources).sum := by
  have equations : ((scheme.virtuals system).zip system.equations).map
        (fun item => scheme.spread (equationNode item).sources) =
      system.equations.map fun equation => scheme.spread equation.sources := by
    have listed : ((scheme.virtuals system).zip system.equations).map Prod.snd =
        system.equations :=
      List.map_snd_zip (Nat.le_of_eq systemOf.length_virtuals.symm)
    conv_rhs => rw [← listed, List.map_map]
    apply List.map_congr_left
    intro item member
    rw [systemOf.equationNode_sources member, Function.comp_apply]
  have others : (targets.map fun target =>
      scheme.spread (scheme.targetNode system inverse target).sources).sum = 0 := by
    simp [targetNode_sources, sound.spread_virtuals]
  rw [transfers, total_eq_sum_map, recoveryGraph, List.map_append, List.map_map, List.map_map,
    List.sum_append]
  exact congrArg₂ (· + ·) (congrArg List.sum equations) others

/-- A recovery transfers for each parity that its system uses what the sum of this parity
costs. -/
theorem Sound.transfers_recoverTargets (sound : scheme.Sound) {approach : Approach}
    (tunable : scheme.layout = .tradeoff eta approach) (placed : home ∈ scheme.domains)
    {failed : Nat} (isData : failed < scheme.k) (member : failed ∈ home)
    (success : scheme.recoverTargets home targets = .ok graph) :
    scheme.transfers graph =
      scheme.shape.paritySpread eta * scheme.demand home (List.range scheme.shape.l) +
        scheme.shape.repairSpread eta *
          ((List.range scheme.shape.l).filter (scheme.keepsParity home)).length := by
  obtain ⟨system, inverse, systemOk, _, systemOf, _, _, rfl, _⟩ :=
    sound.recoverTargets_eq_recoveryGraph success
  obtain ⟨supplied, permutation⟩ := sound.equations_perm systemOk
  have ofGlobals : ∀ equation ∈ ((scheme.survivingGlobals home).take
      (scheme.demand home (List.range scheme.shape.l))).map (scheme.parityEquation home),
        scheme.spread equation.sources = scheme.shape.paritySpread eta := by
    intro equation isEquation
    obtain ⟨parity, taken, rfl⟩ := List.mem_map.mp isEquation
    exact sound.spread_parityEquation tunable placed isData member (List.mem_of_mem_take taken)
  have ofGroups : ∀ equation ∈ ((List.range scheme.shape.l).filter
      (scheme.keepsParity home)).map (scheme.localEquation home),
        scheme.spread equation.sources = scheme.shape.repairSpread eta := by
    intro equation isEquation
    obtain ⟨group, groupMember, rfl⟩ := List.mem_map.mp isEquation
    obtain ⟨isGroup, keeps⟩ := List.mem_filter.mp groupMember
    have inside := List.mem_range.mp isGroup
    obtain ⟨some, alive⟩ := (keepsParity_iff inside).mp keeps
    obtain ⟨block, isMember⟩ := List.exists_mem_of_ne_nil _ some
    exact sound.spread_localSum tunable placed inside
      (fun source => sound.mem_sources_localEquation inside alive)
      ⟨block, mem_groupMembers.mp isMember⟩
  rw [sound.transfers_recoveryGraph systemOf, (permutation.map _).sum_eq, List.map_append,
    List.sum_append, ← total_eq_sum_map, ← total_eq_sum_map, total_eq_mul ofGlobals,
    total_eq_mul ofGroups, List.length_map, List.length_map, List.length_take,
    Nat.min_eq_left supplied]

theorem Sound.transfers_localRepair (sound : scheme.Sound) {approach : Approach}
    (tunable : scheme.layout = .tradeoff eta approach) (placed : home ∈ scheme.domains)
    {failed : Nat} (isData : failed < scheme.k) (member : failed ∈ home)
    (alone : ¬scheme.SiblingLost home failed)
    (repaired : scheme.localRepair failed = .ok graph) :
    scheme.transfers graph = scheme.shape.repairSpread eta := by
  have ownGroup := localGroup_of_isData isData
  rw [localRepair_eq_join, Graph.join_eq_ok_iff] at repaired
  obtain ⟨_, arity, _, _, rfl⟩ := repaired
  have isSource : ∀ block,
      block ∈ (scheme.localEquation [failed] (failed / scheme.shape.b)).sources ↔
        scheme.shape.localGroup? block = some (failed / scheme.shape.b) ∧ block ∉ home := by
    intro block
    rw [sound.mem_localSources isData, and_comm, and_congr_right_iff]
    intro inGroup
    constructor
    · intro other inHome
      exact alone ⟨block, inHome, other, inGroup.trans ownGroup.symm⟩
    · rintro away rfl
      exact away member
  have sum := sound.spread_localSum tunable placed (sound.shape.group_lt isData) isSource
    ⟨failed, member, ownGroup⟩
  rw [transfers, Graph.empty, List.nil_append, total, total, Node.sources_ofLists _ arity, sum,
    Nat.add_zero]

end

/-! ## Clusters -/

section

variable {group position : Nat}

theorem Sound.mem_cluster_data (sound : scheme.Sound) (inside : group < scheme.shape.l)
    {block : Nat} :
    block < scheme.k ∧ block ∈ Placement.cluster scheme.shape group position ↔
      block ∈ List.range' (group * scheme.shape.b + position * (scheme.shape.g + 1))
        (min (scheme.shape.g + 1) (scheme.shape.b - position * (scheme.shape.g + 1))) := by
  have room : (group + 1) * scheme.shape.b ≤ scheme.shape.l * scheme.shape.b :=
    Nat.mul_le_mul_right _ inside
  rw [Nat.add_one_mul, sound.shape.groups_mul, ← k] at room
  rw [Placement.cluster_eq, List.mem_append]
  constructor
  · rintro ⟨isData, early | isParity⟩
    · exact early
    · split_ifs at isParity
      · have beyond : scheme.k ≤ scheme.shape.localParity group := Nat.le_add_right _ _
        rw [List.mem_singleton.mp isParity] at isData
        omega
      · cases isParity
  · intro early
    refine ⟨?_, .inl early⟩
    rw [List.mem_range'_1] at early
    omega

theorem Sound.length_lostData_cluster (sound : scheme.Sound) (inside : group < scheme.shape.l) :
    (scheme.lostData (Placement.cluster scheme.shape group position)).length =
      min (scheme.shape.g + 1) (scheme.shape.b - position * (scheme.shape.g + 1)) := by
  have listed : (scheme.lostData (Placement.cluster scheme.shape group position)).Perm
      (List.range' (group * scheme.shape.b + position * (scheme.shape.g + 1))
        (min (scheme.shape.g + 1) (scheme.shape.b - position * (scheme.shape.g + 1)))) := by
    rw [List.perm_ext_iff_of_nodup nodup_lostData List.nodup_range']
    intro block
    rw [mem_lostData, sound.mem_cluster_data inside]
  rw [listed.length_eq, List.length_range']

theorem Sound.localParity_mem_cluster_iff (sound : scheme.Sound)
    (inside : group < scheme.shape.l) :
    scheme.shape.localParity group ∈ Placement.cluster scheme.shape group position ↔
      scheme.shape.b < (position + 1) * (scheme.shape.g + 1) := by
  have noData : scheme.shape.localParity group ∉
      List.range' (group * scheme.shape.b + position * (scheme.shape.g + 1))
        (min (scheme.shape.g + 1) (scheme.shape.b - position * (scheme.shape.g + 1))) := by
    intro isData
    have below := ((sound.mem_cluster_data inside).mpr isData).1
    exact absurd below (Nat.not_lt.mpr (Nat.le_add_right _ _))
  rw [Placement.cluster_eq, List.mem_append, or_iff_right noData]
  split_ifs with room
  · exact iff_of_true (List.mem_singleton_self _) room
  · exact iff_of_false List.not_mem_nil room

theorem Sound.filter_keepsParity_cluster (sound : scheme.Sound) (inside : group < scheme.shape.l)
    (useful : position < maxEta scheme.shape.b scheme.shape.g) :
    ((List.range scheme.shape.l).filter
        (scheme.keepsParity (Placement.cluster scheme.shape group position))).length =
      if scheme.shape.b < (position + 1) * (scheme.shape.g + 1) then 0 else 1 := by
  have keeps : ∀ other ∈ List.range scheme.shape.l,
      scheme.keepsParity (Placement.cluster scheme.shape group position) other = true ↔
        group = other ∧ ¬scheme.shape.b < (position + 1) * (scheme.shape.g + 1) := by
    intro other otherMember
    rw [keepsParity_iff (List.mem_range.mp otherMember), groupMembers_ne_nil_iff,
      Placement.mem_spannedGroups_cluster sound.shape.dvd inside useful]
    apply and_congr_right
    rintro rfl
    rw [sound.localParity_mem_cluster_iff inside]
  rw [← List.countP_eq_length_filter]
  split_ifs with room
  · rw [List.countP_eq_zero]
    exact fun other otherMember kept => ((keeps other otherMember).mp kept).2 room
  · have single : (List.range scheme.shape.l).countP
        (scheme.keepsParity (Placement.cluster scheme.shape group position)) =
          (List.range scheme.shape.l).count group := by
      apply List.countP_congr
      intro other otherMember
      rw [keeps other otherMember, beq_iff_eq, and_iff_left room, eq_comm]
    rw [single, List.count_eq_one_of_mem List.nodup_range (List.mem_range.mpr inside)]

/-- A cluster of `g + 1` data blocks takes `g` global parities; one with the local parity takes
as many as it holds data blocks. -/
theorem Sound.demand_cluster (sound : scheme.Sound)
    (placed : Placement.cluster scheme.shape group position ∈ scheme.domains)
    (inside : group < scheme.shape.l) (useful : position < maxEta scheme.shape.b scheme.shape.g) :
    scheme.demand (Placement.cluster scheme.shape group position) (List.range scheme.shape.l) =
      if scheme.shape.b < (position + 1) * (scheme.shape.g + 1) then
        scheme.shape.b - position * (scheme.shape.g + 1) else scheme.shape.g := by
  have once : scheme.repeatedEntries (Placement.cluster scheme.shape group position) = 0 :=
    repeatedEntries_eq_zero_iff.mpr fun _ _ => (sound.nodup_domain placed).filter _
  have counted : scheme.demand (Placement.cluster scheme.shape group position) _ + _ = _ :=
    sound.demand_add_length_keepsParity
  have begun := lt_maxEta_iff.mp useful
  rw [sound.filter_keepsParity_cluster inside useful, sound.length_lostData_cluster inside,
    once] at counted
  rw [Nat.add_one_mul] at counted ⊢
  split_ifs at counted ⊢ <;> omega

end

/-! ## Data blocks of offline domains -/

section

variable {failed : Nat} {graph : Graph}

theorem Sound.transfers_cluster (sound : scheme.Sound) {approach : Approach}
    (tunable : scheme.layout = .tradeoff eta approach) {group position : Nat}
    (inside : group < scheme.shape.l)
    (useful : position < min eta (maxEta scheme.shape.b scheme.shape.g))
    (placed : Placement.cluster scheme.shape group position ∈ scheme.domains)
    (isData : failed < scheme.k)
    (member : failed ∈ Placement.cluster scheme.shape group position) {targets : List Nat}
    (success : scheme.recoverTargets (Placement.cluster scheme.shape group position) targets =
      .ok graph) :
    scheme.transfers graph =
      scheme.shape.maintenanceTransfers eta (failed % scheme.shape.b) := by
  obtain ⟨few, begun⟩ := lt_min_iff.mp useful
  have granular := (sound.tunable_checked tunable).2
  obtain ⟨low, high⟩ := Placement.mod_of_mem_cluster isData member
  rw [sound.transfers_recoverTargets tunable placed isData member success,
    sound.demand_cluster placed inside begun, sound.filter_keepsParity_cluster inside begun,
    Shape.maintenanceTransfers]
  by_cases room : scheme.shape.b < (position + 1) * (scheme.shape.g + 1)
  · -- only the last cluster can be partial
    have last : eta = position + 1 :=
      Nat.le_antisymm (granular.trans (maxEta_le_iff.mpr (Nat.le_of_lt room))) few
    have full : scheme.shape.b / (scheme.shape.g + 1) = position :=
      Nat.div_eq_of_lt_le (Nat.le_of_lt (lt_maxEta_iff.mp begun)) room
    have division := Nat.div_add_mod' scheme.shape.b (scheme.shape.g + 1)
    rw [full] at division
    have rest : scheme.shape.b - position * (scheme.shape.g + 1) =
        scheme.shape.b % (scheme.shape.g + 1) := by omega
    rw [last, if_pos room, if_pos room, if_pos room, Nat.add_sub_cancel,
      if_neg (Nat.not_lt.mpr low), rest, Nat.mul_zero, Nat.add_zero]
  · rw [if_neg room, if_neg room, Nat.mul_one]
    split_ifs with more early early
    · rfl
    · have earlier : position + 1 ≤ eta - 1 := by
        have before : position + 1 < eta := by
          apply Nat.lt_of_mul_lt_mul_right (a := scheme.shape.g + 1)
          omega
        omega
      have covered := Nat.mul_le_mul_right (scheme.shape.g + 1) earlier
      omega
    · rfl
    · have within : (position + 1) * (scheme.shape.g + 1) ≤ eta * (scheme.shape.g + 1) :=
        Nat.mul_le_mul_right _ few
      omega

/-- What is transferred for a data block of an offline domain depends on its place in the local
group. -/
theorem Sound.transfers_plan (sound : scheme.Sound) {approach : Approach}
    (tunable : scheme.layout = .tradeoff eta approach) (isData : failed < scheme.k)
    (placed : home ∈ scheme.domains) (member : failed ∈ home)
    (made : (if failed % scheme.shape.b < eta * (scheme.shape.g + 1) then
      scheme.recoverTargets home [failed] else scheme.localRepair failed) = .ok graph) :
    scheme.transfers graph =
      scheme.shape.maintenanceTransfers eta (failed % scheme.shape.b) := by
  have isTunable := placed
  rw [domains, placement, tunable, Layout.placement] at isTunable
  rcases Placement.tunable_data_cases sound.shape.dvd isTunable isData member with
    ⟨group, inside, position, useful, rfl⟩ | ⟨late, scattered⟩
  · have high := (Placement.mod_of_mem_cluster isData member).2
    have within : (position + 1) * (scheme.shape.g + 1) ≤ eta * (scheme.shape.g + 1) :=
      Nat.mul_le_mul_right _ (lt_min_iff.mp useful).1
    rw [if_pos (Nat.lt_of_lt_of_le high within)] at made
    exact sound.transfers_cluster tunable inside useful placed isData member made
  · have below := Nat.mod_lt failed sound.shape.b_pos
    rw [if_neg (Nat.not_lt.mpr late)] at made
    rw [sound.transfers_localRepair tunable placed isData member
      (not_siblingLost_of_scattered scattered isData member) made, Shape.maintenanceTransfers,
      if_neg (by omega), if_neg (Nat.not_lt.mpr late)]

theorem Sound.exists_transferPlans (sound : scheme.Sound)
    (tunable : scheme.layout = .tradeoff eta .maintenance) :
    ∃ plans, scheme.measuredPlans = .ok plans ∧ plans.length = scheme.k ∧
      total scheme.transfers (plans.map fun (_, plan) => plan.graph) =
        ((List.range scheme.k).map fun failed =>
          scheme.shape.maintenanceTransfers eta (failed % scheme.shape.b)).sum := by
  have maintains : scheme.approach = .maintenance := by rw [approach, tunable, Layout.approach]
  apply exists_measuredPlans fun _ plan => plan.graph
  intro block isData
  obtain ⟨position, domain, isDomain, member, placed, inside, quiet⟩ :=
    sound.exists_measuredDomain maintains isData
  obtain ⟨graph, success, made⟩ :=
    sound.exists_tunablePlan tunable isData isDomain member inside quiet
  exact ⟨position, _, placed, success, sound.transfers_plan tunable isData isDomain member made⟩

end

end Scheme

end LocalRepair

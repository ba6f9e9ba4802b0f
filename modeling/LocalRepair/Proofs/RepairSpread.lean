import Mathlib
import LocalRepair.Analysis.Curve
import LocalRepair.Proofs.Measurement
import LocalRepair.Proofs.SingleRepair
import LocalRepair.Proofs.TunablePlacement

/-!
# The spread of repairs in tunable placements

The repair of a data block reads the rest of its local group, so it reads from all domains
that the group spans.  In a tunable placement every group spans equally many: its clusters,
a stripe for each block left over, and the domain of the local parities unless the clusters
hold these.  This count is the closed form of the trade-off curve.
-/

namespace LocalRepair

namespace Shape

variable {shape : Shape} {eta : Nat}

/-- The number of domains, besides its own, from which the repair of a data block reads. -/
def repairSpread (shape : Shape) (eta : Nat) : Nat :=
  if eta = maxEta shape.b shape.g ∧ ¬shape.g + 1 ∣ shape.b then maxEta shape.b shape.g - 1
  else shape.b - shape.g * eta

theorem repairSpread_eq (useful : eta ≤ maxEta shape.b shape.g) :
    shape.repairSpread eta =
      if shape.b < eta * (shape.g + 1) then eta - 1 else shape.b - shape.g * eta := by
  rw [repairSpread]
  by_cases room : shape.b < eta * (shape.g + 1)
  · have isPartial := (lt_mul_iff_partial useful).mp room
    rw [if_pos isPartial, if_pos room, isPartial.1]
  · rw [if_neg (mt (lt_mul_iff_partial useful).mpr room), if_neg room]

theorem repairDomains_ofEta (useful : eta ≤ maxEta shape.b shape.g) :
    (CurvePoint.ofEta (Nat.cast : Nat → ℚ) shape eta).repairDomains =
      (shape.repairSpread eta : ℚ) := by
  rw [repairSpread_eq useful, CurvePoint.ofEta]
  simp only [partial_iff_lt_mul useful]
  split_ifs with room
  · have clustered : 0 < eta := Nat.pos_of_lt_mul_right room
    rw [Nat.cast_sub clustered]
    rfl
  · have covered : shape.g * eta ≤ shape.b := by
      rw [Nat.not_lt, Nat.mul_add_one, Nat.mul_comm] at room
      omega
    rw [Nat.cast_sub covered, Nat.cast_mul]
    rfl

theorem Sound.tradeoffCurve_eq (sound : shape.Sound) :
    shape.tradeoffCurve = .ok ((List.range (maxEta shape.b shape.g + 1)).map
      (CurvePoint.ofEta Float.ofNat shape)) := by
  rw [tradeoffCurve, check_eq_ok_iff.mpr sound, Outcome.ok_bind, Outcome.pure_eq_ok]

end Shape

namespace Placement

variable {shape : Shape} {eta group : Nat}

theorem mem_spannedGroups_cluster (divides : shape.l ∣ shape.k) {owner position : Nat}
    (ownerInside : owner < shape.l) (useful : position < maxEta shape.b shape.g) :
    group ∈ shape.spannedGroups (cluster shape owner position) ↔ owner = group := by
  have begun := lt_maxEta_iff.mp useful
  have first : owner * shape.b + position * (shape.g + 1) ∈ cluster shape owner position := by
    rw [cluster_eq, List.mem_append, List.mem_range'_1]
    omega
  have isOwner : shape.localGroup? (owner * shape.b + position * (shape.g + 1)) = some owner := by
    apply Shape.localGroup_of_mem_range divides ownerInside
    · omega
    · rw [Nat.add_mul]
      omega
  obtain ⟨_, _, _, inGroup⟩ := Shape.confined_cluster divides ownerInside position
  rw [Shape.mem_spannedGroups]
  constructor
  · rintro ⟨block, member, isGroup⟩
    have same := (inGroup block member).trans (inGroup _ first).symm
    rw [isGroup, isOwner, Option.some.injEq] at same
    exact same.symm
  · rintro rfl
    exact ⟨_, first, isOwner⟩

theorem countP_clusters (divides : shape.l ∣ shape.k) (inside : group < shape.l) (eta : Nat) :
    ((clusters shape eta).countP fun domain => group ∈ shape.spannedGroups domain) =
      min eta (maxEta shape.b shape.g) := by
  have ofOwner : ∀ owner ∈ List.range shape.l,
      ((List.range (min eta (maxEta shape.b shape.g))).map (cluster shape owner)).countP
        (fun domain => group ∈ shape.spannedGroups domain) =
          if owner = group then min eta (maxEta shape.b shape.g) else 0 := by
    intro owner ownerMember
    have spans : ∀ position ∈ List.range (min eta (maxEta shape.b shape.g)),
        (group ∈ shape.spannedGroups (cluster shape owner position) ↔ owner = group) := by
      intro position positionMember
      exact mem_spannedGroups_cluster divides (List.mem_range.mp ownerMember)
        (Nat.lt_of_lt_of_le (List.mem_range.mp positionMember) (Nat.min_le_right _ _))
    rw [List.countP_map]
    split_ifs with isOwner
    · rw [List.countP_eq_length.mpr, List.length_range]
      intro position member
      exact decide_eq_true ((spans position member).mpr isOwner)
    · rw [List.countP_eq_zero]
      intro position member
      simpa using mt (spans position member).mp isOwner
  rw [clusters, List.countP_flatMap, List.sum_map_eq_nsmul_single group]
  · rw [List.count_eq_one_of_mem List.nodup_range (List.mem_range.mpr inside), one_smul]
    exact (ofOwner group (List.mem_range.mpr inside)).trans (if_pos rfl)
  · intro owner other member
    exact (ofOwner owner member).trans (if_neg other)

theorem countP_stripes (divides : shape.l ∣ shape.k) (inside : group < shape.l) (eta : Nat) :
    ((stripes shape eta).countP fun domain => group ∈ shape.spannedGroups domain) =
      shape.b - eta * (shape.g + 1) := by
  rw [List.countP_eq_length.mpr, stripes, List.length_map, List.length_range]
  intro domain member
  obtain ⟨offset, offsetMember, rfl⟩ := List.mem_map.mp member
  have offsetInside := List.mem_range.mp offsetMember
  apply decide_eq_true
  rw [Shape.mem_spannedGroups]
  refine ⟨_, List.mem_map.mpr ⟨group, List.mem_range.mpr inside, rfl⟩, ?_⟩
  apply Shape.localGroup_of_mem_range divides inside
  · omega
  · rw [Nat.add_mul]
    omega

theorem countP_parityDomains (inside : group < shape.l) (eta : Nat) :
    ((parityDomains shape eta).countP fun domain => group ∈ shape.spannedGroups domain) =
      if parityInCluster shape.b shape.g eta then 0 else 1 := by
  rw [parityDomains]
  split_ifs with clustered
  · rfl
  · have spans : group ∈ shape.spannedGroups ((List.range shape.l).map shape.localParity) :=
      Shape.mem_spannedGroups.mpr ⟨_, List.mem_map.mpr ⟨group, List.mem_range.mpr inside, rfl⟩,
        Shape.localGroup_localParity inside⟩
    rw [List.countP_singleton, if_pos (decide_eq_true spans)]

theorem countP_globalParities (shape : Shape) (group : Nat) :
    [shape.globalParities].countP (fun domain => group ∈ shape.spannedGroups domain) = 0 := by
  have unspanned : group ∉ shape.spannedGroups shape.globalParities := by
    rw [Shape.mem_spannedGroups]
    rintro ⟨block, member, inGroup⟩
    rw [Shape.localGroup_eq_none_iff.mpr (Shape.mem_globalParities.mp member).1] at inGroup
    cases inGroup
  rw [List.countP_singleton, if_neg (by simpa using unspanned)]

/-- Every local group spans one domain more than the spread of its repairs. -/
theorem countP_spanned (divides : shape.l ∣ shape.k) (inside : group < shape.l)
    (useful : eta ≤ maxEta shape.b shape.g) :
    ((tunable shape eta).domains.countP fun domain => group ∈ shape.spannedGroups domain) =
      shape.repairSpread eta + 1 := by
  have room : parityInCluster shape.b shape.g eta = true ↔
      shape.b < eta * (shape.g + 1) := by
    rw [parityInCluster_iff, Nat.min_eq_left useful]
  rw [domains, List.countP_append, List.countP_append, List.countP_append,
    countP_clusters divides inside, countP_stripes divides inside, countP_parityDomains inside,
    countP_globalParities, Nat.min_eq_left useful, Shape.repairSpread_eq useful]
  simp only [room]
  split_ifs with more
  · have clustered : 0 < eta := Nat.pos_of_lt_mul_right more
    omega
  · rw [Nat.mul_add_one, Nat.mul_comm eta] at more ⊢
    omega

end Placement

namespace Scheme

variable {scheme : Scheme} {failed eta : Nat} {graph : Graph}

theorem Sound.exists_read_iff (sound : scheme.Sound) (addressable : scheme.Addressable)
    (isData : failed < scheme.k)
    (repaired : scheme.singleRepair failed = .ok graph) {block : Nat} :
    (∃ read ∈ (scheme.planCost graph).reads, read.block = block) ↔
      block ≠ failed ∧ scheme.shape.localGroup? block = some (failed / scheme.shape.b) := by
  have relates := sound.relates_local isData
  rw [singleRepair, ← k, if_pos isData, localRepair_eq_join] at repaired
  obtain ⟨_, arity, notItself, _, rfl⟩ := Graph.join_eq_ok_iff.mp repaired
  rw [← List.mem_map, sound.mem_blocks_planCost addressable, ← sound.mem_localSources isData]
  constructor
  · exact fun both => (mem_inputs_single arity notItself).mp both.1
  · exact fun read => ⟨(mem_inputs_single arity notItself).mpr read, (relates.survive _ read).1⟩

section

variable {home : Nat}

theorem Sound.mem_furtherDomains_repair (sound : scheme.Sound)
    (addressable : scheme.Addressable) (isData : failed < scheme.k)
    (repaired : scheme.singleRepair failed = .ok graph)
    (placed : domainPosition? scheme.domains failed = some home) {position : Nat} :
    position ∈ scheme.furtherDomains graph home ↔
      (∃ domain, scheme.domains[position]? = some domain ∧
        failed / scheme.shape.b ∈ scheme.shape.spannedGroups domain) ∧ position ≠ home := by
  rw [mem_furtherDomains, and_congr_left_iff]
  intro elsewhere
  simp only [Shape.mem_spannedGroups]
  constructor
  · rintro ⟨domain, found, read, isRead, member⟩
    have inGroup := ((sound.exists_read_iff addressable isData repaired).mp ⟨read, isRead, rfl⟩).2
    exact ⟨domain, found, read.block, member, inGroup⟩
  · rintro ⟨domain, found, block, member, inGroup⟩
    have other : block ≠ failed := by
      rintro rfl
      have also := (domainPosition?_eq_some_iff sound.disjoint_domains).mpr
        ⟨domain, found, member⟩
      rw [placed, Option.some.injEq] at also
      exact elsewhere also.symm
    obtain ⟨read, isRead, rfl⟩ :=
      (sound.exists_read_iff addressable isData repaired).mpr ⟨other, inGroup⟩
    exact ⟨domain, found, read, isRead, member⟩

/-- With the domain of the block itself, the domains that its repair reads from are those
that its local group spans. -/
theorem Sound.length_furtherDomains_add_one (sound : scheme.Sound)
    (addressable : scheme.Addressable) (isData : failed < scheme.k)
    (repaired : scheme.singleRepair failed = .ok graph)
    (placed : domainPosition? scheme.domains failed = some home) :
    (scheme.furtherDomains graph home).length + 1 =
      scheme.domains.countP fun domain =>
        failed / scheme.shape.b ∈ scheme.shape.spannedGroups domain := by
  have isFurther : ∀ position, position ∈ scheme.furtherDomains graph home ↔ _ :=
    fun _ => sound.mem_furtherDomains_repair addressable isData repaired placed
  have spansHome : ∃ domain, scheme.domains[home]? = some domain ∧
      failed / scheme.shape.b ∈ scheme.shape.spannedGroups domain := by
    obtain ⟨domain, atHome, member⟩ :=
      (domainPosition?_eq_some_iff sound.disjoint_domains).mp placed
    exact ⟨domain, atHome, Shape.mem_spannedGroups.mpr
      ⟨failed, member, localGroup_of_isData isData⟩⟩
  have notFurther : home ∉ scheme.furtherDomains graph home :=
    fun further => ((isFurther home).mp further).2 rfl
  have spanning : (home :: scheme.furtherDomains graph home).Perm
      (scheme.domains.findIdxs fun domain =>
        failed / scheme.shape.b ∈ scheme.shape.spannedGroups domain) := by
    rw [List.perm_ext_iff_of_nodup
      (List.nodup_cons.mpr ⟨notFurther, nodup_furtherDomains _ _⟩) List.nodup_findIdxs]
    intro position
    rw [List.mem_cons, isFurther, mem_findIdxs_iff]
    simp only [decide_eq_true_eq]
    constructor
    · rintro (rfl | ⟨spans, _⟩)
      · exact spansHome
      · exact spans
    · intro spans
      by_cases isHome : position = home
      · exact .inl isHome
      · exact .inr ⟨spans, isHome⟩
  rw [← List.length_findIdxs, ← spanning.length_eq, List.length_cons]

end

theorem Sound.tunable_checked (sound : scheme.Sound) {approach : Approach}
    (tunable : scheme.layout = .tradeoff eta approach) :
    scheme.shape.g ≠ 0 ∧ eta ≤ maxEta scheme.shape.b scheme.shape.g := by
  have layoutOk := sound.layout
  rw [tunable, Layout.check, Outcome.bind_eq_ok_iff] at layoutOk
  obtain ⟨_, positive, bounded⟩ := layoutOk
  exact ⟨Outcome.ensure_eq_ok_iff.mp positive, Outcome.ensure_eq_ok_iff.mp bounded⟩

theorem Sound.length_furtherDomains (sound : scheme.Sound)
    (addressable : scheme.Addressable) {approach : Approach}
    (tunable : scheme.layout = .tradeoff eta approach) (isData : failed < scheme.k)
    (repaired : scheme.singleRepair failed = .ok graph) {home : Nat}
    (placed : domainPosition? scheme.domains failed = some home) :
    (scheme.furtherDomains graph home).length = scheme.shape.repairSpread eta := by
  have counted := sound.length_furtherDomains_add_one addressable isData repaired placed
  rw [domains, placement, tunable, Layout.placement, Placement.countP_spanned sound.shape.dvd
    (sound.shape.group_lt isData) (sound.tunable_checked tunable).2] at counted
  exact Nat.succ.inj counted

theorem Sound.exists_repairPlan (sound : scheme.Sound) (addressable : scheme.Addressable)
    (tunable : scheme.layout = .tradeoff eta .repair) (isData : failed < scheme.k)
    {available : List Nat} (inside : ∀ block ∈ available, block < scheme.n) :
    ∃ graph home, scheme.planDecode available [failed] = .ok ⟨.singleRepair, graph⟩ ∧
      domainPosition? scheme.domains failed = some home ∧
      (scheme.furtherDomains graph home).length = scheme.shape.repairSpread eta := by
  have repairs : scheme.approach = .repair := by rw [approach, tunable, Layout.approach]
  have failedInside := isData.trans sound.k_lt_n
  obtain ⟨graph, _, repaired, _⟩ := sound.exists_singleRepair failedInside
  have success := planDecode_of_singleRepair repairs
    (List.forall_mem_cons.mpr ⟨failedInside, inside⟩) repaired
  obtain ⟨home, placed⟩ := sound.exists_position failedInside
  exact ⟨graph, home, success, placed,
    sound.length_furtherDomains addressable tunable isData repaired placed⟩

theorem Sound.exists_repairPlans (sound : scheme.Sound) (addressable : scheme.Addressable)
    (tunable : scheme.layout = .tradeoff eta .repair) :
    ∃ plans, scheme.measuredPlans = .ok plans ∧ plans.length = scheme.k ∧
      total DecodeReads.domains
          (plans.map fun (position, plan) => scheme.planReads position plan) =
        scheme.k * scheme.shape.repairSpread eta := by
  have each : ∀ block < scheme.k, ∃ position plan,
      domainPosition? scheme.domains block = some position ∧
      scheme.planDecode (scheme.measuredAvailable block position) [block] = .ok plan ∧
      (scheme.planReads position plan).domains = scheme.shape.repairSpread eta := by
    intro block isData
    obtain ⟨home, placed⟩ := sound.exists_position (isData.trans sound.k_lt_n)
    obtain ⟨graph, _, success, again, spread⟩ := sound.exists_repairPlan addressable tunable isData
      fun other available => (mem_measuredAvailable available).1
    rw [placed, Option.some.injEq] at again
    refine ⟨home, ⟨.singleRepair, graph⟩, placed, success, ?_⟩
    rw [sound.domains_planReads, again]
    exact spread
  obtain ⟨plans, measured, count, sum⟩ := exists_measuredPlans scheme.planReads each
  refine ⟨plans, measured, count, ?_⟩
  rw [sum, List.map_const', List.sum_replicate, List.length_range, smul_eq_mul]

end Scheme

end LocalRepair

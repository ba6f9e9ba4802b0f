import Mathlib
import LocalRepair.Proofs.Domains

/-!
# Tunable placements

For every granularity the clusters of a local group hold its first blocks in their
order, the stripes hold the others, and the parity of the group is either in its last
cluster or with the other local parities.  So a tunable placement divides the blocks of
a stripe, and no domain holds more than the tolerance allows.
-/

namespace LocalRepair

/-- The clusters that a granularity asks for cover a local group exactly if it is not
below the largest useful one. -/
theorem maxEta_le_iff {b g eta : Nat} : maxEta b g ≤ eta ↔ b ≤ eta * (g + 1) := by
  have positive : 0 < g + 1 := Nat.succ_pos g
  rw [maxEta, Nat.div_le_iff_le_mul_add_pred positive, Nat.mul_comm (g + 1)]
  omega

theorem le_maxEta_mul (b g : Nat) : b ≤ maxEta b g * (g + 1) :=
  maxEta_le_iff.mp le_rfl

theorem lt_maxEta_iff {b g eta : Nat} : eta < maxEta b g ↔ eta * (g + 1) < b := by
  simpa using not_congr maxEta_le_iff

/-- The clusters have room for more than the data of a group only at the largest useful
granularity, and only if the last of them is partial. -/
theorem lt_mul_iff_partial {b g eta : Nat} (useful : eta ≤ maxEta b g) :
    b < eta * (g + 1) ↔ eta = maxEta b g ∧ ¬g + 1 ∣ b := by
  constructor
  · intro room
    have enough : maxEta b g ≤ eta := maxEta_le_iff.mpr (Nat.le_of_lt room)
    refine ⟨Nat.le_antisymm useful enough, ?_⟩
    rintro ⟨count, filled⟩
    have few : maxEta b g ≤ count := maxEta_le_iff.mpr (by rw [filled, Nat.mul_comm])
    have covered : eta * (g + 1) ≤ b := by
      rw [filled, Nat.mul_comm (g + 1)]
      exact Nat.mul_le_mul_right _ (useful.trans few)
    exact absurd room (Nat.not_lt.mpr covered)
  · rintro ⟨rfl, partly⟩
    apply Nat.lt_of_le_of_ne (le_maxEta_mul b g)
    intro full
    exact partly ⟨maxEta b g, full.trans (Nat.mul_comm _ _)⟩

/-- The condition under which the trade-off curve has its special case. -/
theorem partial_iff_lt_mul {b g eta : Nat} (useful : eta ≤ maxEta b g) :
    eta = maxEta b g ∧ b % (g + 1) ≠ 0 ↔ b < eta * (g + 1) := by
  rw [lt_mul_iff_partial useful, Nat.dvd_iff_mod_eq_zero]

/-- The parity of a group is clustered exactly if the clusters have room for more than
the data of the group. -/
theorem parityInCluster_iff {b g eta : Nat} :
    parityInCluster b g eta = true ↔ b < min eta (maxEta b g) * (g + 1) := by
  rw [lt_mul_iff_partial (Nat.min_le_right _ _), min_eq_right_iff, maxEta_le_iff,
    Nat.dvd_iff_mod_eq_zero, parityInCluster, Bool.and_eq_true, decide_eq_true_eq,
    decide_eq_true_eq]

namespace Placement

variable {shape : Shape}

/-- The next `g + 1` blocks of a group, as far as there are any, and the parity if there
are not. -/
theorem cluster_eq (shape : Shape) (group position : Nat) :
    cluster shape group position =
      List.range' (group * shape.b + position * (shape.g + 1))
          (min (shape.g + 1) (shape.b - position * (shape.g + 1))) ++
        if shape.b < (position + 1) * (shape.g + 1) then [shape.localParity group] else [] := by
  have width : min (group * shape.b + position * (shape.g + 1) + (shape.g + 1))
        ((group + 1) * shape.b) - (group * shape.b + position * (shape.g + 1)) =
      min (shape.g + 1) (shape.b - position * (shape.g + 1)) := by
    rw [Nat.add_mul, Nat.one_mul]
    omega
  have partly : min (shape.g + 1) (shape.b - position * (shape.g + 1)) < shape.g + 1 ↔
      shape.b < (position + 1) * (shape.g + 1) := by
    rw [Nat.add_mul, Nat.one_mul]
    omega
  unfold cluster
  simp only [width, List.length_range', partly]
  split
  · rfl
  · rw [List.append_nil]

/-- Clusters of a group hold its first data blocks in order, and then its parity if
they have room for it. -/
theorem flatten_clusters_group (shape : Shape) (group : Nat) {count : Nat}
    (few : count ≤ maxEta shape.b shape.g) :
    ((List.range count).map (cluster shape group)).flatten =
      List.range' (group * shape.b) (min (count * (shape.g + 1)) shape.b) ++
        if shape.b < count * (shape.g + 1) then [shape.localParity group] else [] := by
  induction count with
  | zero => simp
  | succ count ih =>
      -- the clusters before the last one are full, so no parity stands between the data
      have before : count * (shape.g + 1) < shape.b := by
        by_contra covered
        have enough := maxEta_le_iff.mpr (Nat.le_of_not_lt covered)
        omega
      have past : ¬shape.b < count * (shape.g + 1) := by omega
      have total : min (count * (shape.g + 1)) shape.b +
          min (shape.g + 1) (shape.b - count * (shape.g + 1)) =
            min ((count + 1) * (shape.g + 1)) shape.b := by
        rw [Nat.add_mul, Nat.one_mul]
        omega
      rw [List.range_succ, List.map_append, List.flatten_append, List.map_singleton,
        List.flatten_singleton, ih (Nat.le_of_succ_le few), if_neg past, List.append_nil,
        cluster_eq, ← List.append_assoc, ← total, ← List.range'_append_1,
        Nat.min_eq_left (Nat.le_of_lt before)]

theorem flatten_clusters (shape : Shape) (eta : Nat) :
    (clusters shape eta).flatten = (List.range shape.l).flatMap fun group =>
      List.range' (group * shape.b) (min (eta * (shape.g + 1)) shape.b) ++
        if parityInCluster shape.b shape.g eta then [shape.localParity group] else [] := by
  have width : min (min eta (maxEta shape.b shape.g) * (shape.g + 1)) shape.b =
      min (eta * (shape.g + 1)) shape.b := by
    rw [← Nat.mul_min_mul_right, Nat.min_assoc, Nat.min_eq_right (le_maxEta_mul _ _)]
  rw [clusters, List.flatten_eq_flatMap, List.flatMap_assoc]
  apply List.flatMap_congr
  intro group _
  rw [← List.flatten_eq_flatMap, flatten_clusters_group shape group (Nat.min_le_right _ _), width]
  simp only [← parityInCluster_iff]

theorem flatten_stripes_perm (shape : Shape) (eta : Nat) :
    (stripes shape eta).flatten.Perm ((List.range shape.l).flatMap fun group =>
      List.range' (group * shape.b + min (eta * (shape.g + 1)) shape.b)
        (shape.b - min (eta * (shape.g + 1)) shape.b)) := by
  have listed := flatMap_map_perm (List.range (shape.b - eta * (shape.g + 1)))
    (List.range shape.l) fun offset group => group * shape.b + eta * (shape.g + 1) + offset
  rw [List.flatMap_def] at listed
  refine listed.trans (List.Perm.of_eq (List.flatMap_congr ?_))
  intro group _
  rw [← List.range'_eq_map_range]
  by_cases covered : shape.b ≤ eta * (shape.g + 1)
  · rw [Nat.min_eq_right covered, Nat.sub_eq_zero_of_le covered, Nat.sub_self]
    rfl
  · rw [Nat.min_eq_left (Nat.le_of_not_le covered)]

theorem flatMap_groupData (shape : Shape) (count : Nat) :
    (List.range count).flatMap shape.groupData = List.range (count * shape.b) := by
  induction count with
  | zero => simp
  | succ count ih =>
      rw [List.range_succ, List.flatMap_append, ih, List.flatMap_singleton, Shape.groupData,
        List.range_eq_range', List.range_eq_range', Nat.add_mul, Nat.one_mul]
      simpa using List.range'_append_1 (s := 0) (m := count * shape.b) (n := shape.b)

theorem flatten_clusters_append_stripes_perm (divides : shape.l ∣ shape.k) (eta : Nat) :
    ((clusters shape eta).flatten ++ (stripes shape eta).flatten).Perm
      (List.range shape.k ++ (List.range shape.l).flatMap fun group =>
        if parityInCluster shape.b shape.g eta then [shape.localParity group] else []) := by
  let width := min (eta * (shape.g + 1)) shape.b
  let clustered := fun group => List.range' (group * shape.b) width
  let scattered := fun group => List.range' (group * shape.b + width) (shape.b - width)
  let parity := fun group =>
    if parityInCluster shape.b shape.g eta then [shape.localParity group] else []
  have whole : (fun group => clustered group ++ scattered group) = shape.groupData := by
    funext group
    rw [Shape.groupData, List.range'_append_1, Nat.add_sub_of_le (Nat.min_le_right _ _)]
  have data : (List.range shape.l).flatMap (fun group => clustered group ++ scattered group) =
      List.range shape.k := by
    rw [whole, flatMap_groupData, Shape.b, Nat.mul_div_cancel' divides]
  have divided : (clusters shape eta).flatten.Perm
      ((List.range shape.l).flatMap clustered ++ (List.range shape.l).flatMap parity) := by
    rw [flatten_clusters]
    exact (List.flatMap_append_perm _ clustered parity).symm
  have reordered : ((List.range shape.l).flatMap clustered ++ (List.range shape.l).flatMap parity ++
      (List.range shape.l).flatMap scattered).Perm
        ((List.range shape.l).flatMap clustered ++ (List.range shape.l).flatMap scattered ++
          (List.range shape.l).flatMap parity) := by
    rw [List.append_assoc, List.append_assoc]
    exact List.perm_append_comm.append_left _
  have gathered : ((List.range shape.l).flatMap clustered ++
      (List.range shape.l).flatMap scattered).Perm (List.range shape.k) := by
    rw [← data]
    exact List.flatMap_append_perm _ clustered scattered
  exact (divided.append (flatten_stripes_perm shape eta)).trans
    (reordered.trans (gathered.append_right _))

theorem flatMap_parity_append_parityDomains (shape : Shape) (eta : Nat) :
    ((List.range shape.l).flatMap fun group =>
        if parityInCluster shape.b shape.g eta then [shape.localParity group] else []) ++
      (parityDomains shape eta).flatten = List.range' shape.k shape.l := by
  rw [List.range'_eq_map_range, parityDomains]
  split
  · rw [List.flatten_nil, List.append_nil, List.map_eq_flatMap]
    rfl
  · rw [List.flatMap_eq_nil_iff.mpr fun _ _ => rfl, List.nil_append, List.flatten_singleton]
    rfl

/-- The domains of a tunable placement divide the blocks of a stripe. -/
theorem flatten_tunable_perm (divides : shape.l ∣ shape.k) (eta : Nat) :
    (tunable shape eta).domains.flatten.Perm (List.range shape.n) := by
  have blocks : List.range shape.n =
      List.range shape.k ++ List.range' shape.k shape.l ++ shape.globalParities := by
    rw [Shape.globalParities, List.range_eq_range', List.range_eq_range', Shape.n]
    have locals := List.range'_append_1 (s := 0) (m := shape.k) (n := shape.l)
    have globals := List.range'_append_1 (s := 0) (m := shape.k + shape.l) (n := shape.g)
    rw [Nat.zero_add] at locals globals
    rw [locals, globals]
  rw [domains, List.flatten_append, List.flatten_append, List.flatten_append,
    List.flatten_singleton, blocks]
  apply List.Perm.append_right
  rw [← flatMap_parity_append_parityDomains shape eta, ← List.append_assoc]
  exact (flatten_clusters_append_stripes_perm divides eta).append_right _

theorem domains_tunable_of_maxEta_le {eta : Nat} (large : maxEta shape.b shape.g ≤ eta) :
    (tunable shape eta).domains = (tunable shape (maxEta shape.b shape.g)).domains := by
  have covered := maxEta_le_iff.mp large
  have covers := le_maxEta_mul shape.b shape.g
  have sameClusters : clusters shape eta = clusters shape (maxEta shape.b shape.g) := by
    rw [clusters, clusters, Nat.min_eq_right large, Nat.min_self]
  have sameStripes : stripes shape eta = stripes shape (maxEta shape.b shape.g) := by
    rw [stripes, stripes, Nat.sub_eq_zero_of_le covered, Nat.sub_eq_zero_of_le covers]
    rfl
  have sameParities : parityDomains shape eta = parityDomains shape (maxEta shape.b shape.g) := by
    simp [parityDomains, parityInCluster, covered, covers]
  rw [domains, domains, sameClusters, sameStripes, sameParities]

/-- Whatever the granularity, a tunable placement divides the blocks of a stripe, each
domain stays within the tolerance of the code, and beyond the largest useful granularity
the domains are the same. -/
theorem tunable_tolerant_partition (someGroup : 1 ≤ shape.l) (divides : shape.l ∣ shape.k)
    (eta : Nat) :
    ∃ domains, (tunable shape eta).domains? = some domains ∧
      domains.flatten.Perm (List.range shape.n) ∧
      (∀ block < shape.n,
        ∃! position : Nat, ∃ domain, domains[position]? = some domain ∧ block ∈ domain) ∧
      checkPartition domains shape.n = .ok () ∧
      (∀ domain ∈ domains,
        domain.length ≤ shape.g + (shape.spannedGroups domain).length) ∧
      (shape.check = .ok () → shape.checkTolerance domains = .ok ()) ∧
      (maxEta shape.b shape.g ≤ eta →
        (tunable shape (maxEta shape.b shape.g)).domains? = some domains) := by
  have placed : ∀ eta, (tunable shape eta).domains? = some (tunable shape eta).domains := by
    intro eta
    rw [domains?, if_neg (Nat.pos_iff_ne_zero.mp someGroup)]
  have divided := flatten_tunable_perm divides eta
  have distinct : (tunable shape eta).domains.flatten.Nodup :=
    divided.nodup_iff.mpr List.nodup_range
  have members : ∀ block, block ∈ (tunable shape eta).domains.flatten ↔ block < shape.n :=
    fun block => divided.mem_iff.trans List.mem_range
  have tolerated : ∀ domain ∈ (tunable shape eta).domains,
      domain.length ≤ shape.g + (shape.spannedGroups domain).length := by
    intro domain member
    rcases Shape.tunable_cases divides eta domain member with scattered | confined
    · apply Shape.length_le_of_scattered scattered
        ((List.nodup_flatten.mp distinct).1 domain member)
      intro block inDomain
      exact (members block).mp (List.mem_flatten.mpr ⟨domain, member, inDomain⟩)
    · exact Shape.length_le_of_confined confined
  refine ⟨(tunable shape eta).domains, placed eta, divided, ?_, ?_, tolerated, ?_, ?_⟩
  · intro block inside
    exact existsUnique_position_of_nodup_flatten distinct ((members block).mpr inside)
  · exact checkPartition_eq_ok_iff.mpr ⟨distinct, members⟩
  · intro valid
    rw [Shape.checkTolerance, valid, Outcome.ok_bind]
    exact Shape.checkDomains_eq_ok_iff.mpr tolerated
  · intro large
    rw [placed, domains_tunable_of_maxEta_le large]

/-- Two groups of four blocks in clusters of three: the last cluster of each takes the
parity of its group, whether two clusters are asked for or five. -/
theorem tunable_tolerant_partition_oversized :
    ∃ domains, (tunable ⟨8, 2, 2⟩ 5).domains? = some domains ∧
      (tunable ⟨8, 2, 2⟩ 2).domains? = some domains ∧ [3, 8] ∈ domains ∧
      domains.flatten.Perm (List.range 12) ∧ checkPartition domains 12 = .ok () ∧
      Shape.checkTolerance ⟨8, 2, 2⟩ domains = .ok () := by
  obtain ⟨domains, placed, divided, _, partition, _, tolerated, same⟩ :=
    tunable_tolerant_partition (show 1 ≤ (Shape.mk 8 2 2).l by decide) (by decide) 5
  have cluster : [3, 8] ∈ domains := by
    cases placed
    decide
  exact ⟨domains, placed, same (by decide), cluster, divided, partition, tolerated (by decide)⟩

end Placement

end LocalRepair

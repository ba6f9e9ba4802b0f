import Mathlib
import LocalRepair.Proofs.SingleGroup
import LocalRepair.Proofs.Tolerance

/-!
# Domains of a placement

Every domain that a layout places either meets each local group once at most, or
lies within one local group and holds at most one block more than there are global
parities.  Either way it is within the tolerance of the code, and its data can be
recovered.
-/

namespace LocalRepair

namespace Shape

/-- Blocks that belong to different local groups, those of a group aside that has
none. -/
def Scattered (shape : Shape) (domain : FaultDomain) : Prop :=
  ∀ left ∈ domain, ∀ right ∈ domain, shape.localGroup? left ≠ none →
    shape.localGroup? left = shape.localGroup? right → left = right

/-- At most one block more of one local group than there are global parities. -/
def Confined (shape : Shape) (domain : FaultDomain) : Prop :=
  domain.length ≤ shape.g + 1 ∧
    ∃ group < shape.l, ∀ block ∈ domain, shape.localGroup? block = some group

variable {shape : Shape}

theorem localGroup_of_mem_range (divides : shape.l ∣ shape.k) {group block : Nat}
    (inside : group < shape.l) (above : group * shape.b ≤ block)
    (below : block < (group + 1) * shape.b) : shape.localGroup? block = some group := by
  have inGroup : block / shape.b = group := Nat.div_eq_of_lt_le above below
  have isData : block < shape.k :=
    calc
      block < (group + 1) * shape.b := below
      _ ≤ shape.l * shape.b := Nat.mul_le_mul_right _ inside
      _ = shape.k := Nat.mul_div_cancel' divides
  rw [localGroup?, if_pos isData, inGroup]

theorem confined_cluster (divides : shape.l ∣ shape.k) {group : Nat} (inside : group < shape.l)
    (position : Nat) : shape.Confined (Placement.cluster shape group position) := by
  unfold Placement.cluster
  dsimp only
  have inGroup : ∀ block ∈ List.range' (group * shape.b + position * (shape.g + 1))
      (min (group * shape.b + position * (shape.g + 1) + (shape.g + 1))
        ((group + 1) * shape.b) - (group * shape.b + position * (shape.g + 1))),
      shape.localGroup? block = some group := by
    intro block member
    rw [List.mem_range'_1] at member
    apply localGroup_of_mem_range divides inside <;> omega
  split_ifs with partly
  · refine ⟨by simpa using partly, group, inside, ?_⟩
    intro block member
    rcases List.mem_append.mp member with isData | isParity
    · exact inGroup block isData
    · rw [List.mem_singleton.mp isParity]
      exact localGroup_localParity inside
  · refine ⟨?_, group, inside, inGroup⟩
    rw [List.length_range']
    omega

theorem scattered_stripe (divides : shape.l ∣ shape.k) {start : Nat} (inside : start < shape.b) :
    shape.Scattered ((List.range shape.l).map fun group => group * shape.b + start) := by
  have groupOf : ∀ group < shape.l,
      shape.localGroup? (group * shape.b + start) = some group := by
    intro group groupInside
    apply localGroup_of_mem_range divides groupInside
    · omega
    · rw [Nat.add_mul]
      omega
  intro left leftMember right rightMember _ same
  obtain ⟨leftGroup, leftInside, rfl⟩ := List.mem_map.mp leftMember
  obtain ⟨rightGroup, rightInside, rfl⟩ := List.mem_map.mp rightMember
  rw [groupOf leftGroup (List.mem_range.mp leftInside),
    groupOf rightGroup (List.mem_range.mp rightInside), Option.some.injEq] at same
  rw [same]

theorem scattered_localParities :
    shape.Scattered ((List.range shape.l).map shape.localParity) := by
  intro left leftMember right rightMember _ same
  obtain ⟨leftGroup, leftInside, rfl⟩ := List.mem_map.mp leftMember
  obtain ⟨rightGroup, rightInside, rfl⟩ := List.mem_map.mp rightMember
  rw [localGroup_localParity (List.mem_range.mp leftInside),
    localGroup_localParity (List.mem_range.mp rightInside), Option.some.injEq] at same
  rw [same]

theorem scattered_globalParities : shape.Scattered shape.globalParities := by
  intro left leftMember right _ inGroup _
  exact absurd (localGroup_eq_none_iff.mpr (mem_globalParities.mp leftMember).1) inGroup

/-- Blocks of different groups count for one group each, and the others are global
parities. -/
theorem length_le_of_scattered {domain : FaultDomain} (scattered : shape.Scattered domain)
    (distinct : domain.Nodup) (inside : ∀ block ∈ domain, block < shape.n) :
    domain.length ≤ shape.g + (shape.spannedGroups domain).length := by
  have grouped : ((domain.filter fun block => (shape.localGroup? block).isSome).map
      shape.localGroup?).length ≤ ((shape.spannedGroups domain).map some).length := by
    apply List.Nodup.length_le_of_subset
    · apply List.Nodup.map_on _ (distinct.filter _)
      intro left leftMember right rightMember same
      obtain ⟨leftMember, inGroup⟩ := List.mem_filter.mp leftMember
      exact scattered left leftMember right (List.mem_filter.mp rightMember).1
        (Option.isSome_iff_ne_none.mp inGroup) same
    · intro item member
      obtain ⟨block, blockMember, rfl⟩ := List.mem_map.mp member
      obtain ⟨blockMember, inGroup⟩ := List.mem_filter.mp blockMember
      obtain ⟨group, isGroup⟩ := Option.isSome_iff_exists.mp inGroup
      rw [isGroup]
      exact List.mem_map_of_mem (mem_spannedGroups.mpr ⟨block, blockMember, isGroup⟩)
  have others : (domain.filter fun block => !(shape.localGroup? block).isSome).length ≤
      shape.globalParities.length := by
    apply (distinct.filter _).length_le_of_subset
    intro block member
    obtain ⟨member, noGroup⟩ := List.mem_filter.mp member
    rw [Bool.not_eq_true', Option.isSome_eq_false_iff, Option.isNone_iff_eq_none,
      localGroup_eq_none_iff] at noGroup
    exact mem_globalParities.mpr ⟨noGroup, inside block member⟩
  have divided := List.length_eq_length_filter_add (l := domain)
    fun block => (shape.localGroup? block).isSome
  rw [List.length_map, List.length_map] at grouped
  rw [globalParities, List.length_range'] at others
  omega

theorem length_le_of_confined {domain : FaultDomain} (confined : shape.Confined domain) :
    domain.length ≤ shape.g + (shape.spannedGroups domain).length := by
  obtain ⟨short, group, _, inGroup⟩ := confined
  cases domain with
  | nil => exact Nat.zero_le _
  | cons head tail =>
      have spans : group ∈ shape.spannedGroups (head :: tail) :=
        mem_spannedGroups.mpr ⟨head, List.mem_cons_self, inGroup head List.mem_cons_self⟩
      have some := List.length_pos_of_mem spans
      omega

theorem tunable_cases (divides : shape.l ∣ shape.k) (eta : Nat) :
    ∀ domain ∈ (Placement.tunable shape eta).domains,
      shape.Scattered domain ∨ shape.Confined domain := by
  intro domain member
  rw [Placement.domains, List.mem_append, List.mem_append, List.mem_append] at member
  rcases member with ((isCluster | isStripe) | isParities) | isGlobals
  · obtain ⟨group, groupMember, inGroup⟩ := List.mem_flatMap.mp isCluster
    obtain ⟨position, _, rfl⟩ := List.mem_map.mp inGroup
    exact .inr (confined_cluster divides (List.mem_range.mp groupMember) position)
  · obtain ⟨offset, offsetMember, rfl⟩ := List.mem_map.mp isStripe
    have inside : eta * (shape.g + 1) + offset < shape.b := by
      have := List.mem_range.mp offsetMember
      omega
    simp only [Nat.add_assoc]
    exact .inl (scattered_stripe divides inside)
  · unfold Placement.parityDomains at isParities
    split at isParities
    · cases isParities
    · rw [List.mem_singleton.mp isParities]
      exact .inl scattered_localParities
  · rw [List.mem_singleton.mp isGlobals]
    exact .inl scattered_globalParities

theorem flat_cases (n : Nat) :
    ∀ domain ∈ (Placement.flat n).domains, shape.Scattered domain := by
  intro domain member
  obtain ⟨block, _, rfl⟩ := List.mem_map.mp member
  intro left leftMember right rightMember _ _
  rw [List.mem_singleton.mp leftMember, List.mem_singleton.mp rightMember]

end Shape

namespace Scheme

variable {scheme : Scheme} {domain : FaultDomain}

/-- The domains of every layout are of one of the two kinds. -/
theorem Sound.domain_cases (sound : scheme.Sound) (member : domain ∈ scheme.domains) :
    scheme.shape.Scattered domain ∨ scheme.shape.Confined domain := by
  have layoutOk := sound.layout
  rw [domains, placement] at member
  cases isLayout : scheme.layout with
  | flat =>
      rw [isLayout] at member
      exact .inl (Shape.flat_cases _ domain member)
  | tradeoff eta approach =>
      rw [isLayout] at member
      exact Shape.tunable_cases sound.shape.dvd eta domain member
  | optimizedRepair approach =>
      rw [isLayout] at member layoutOk
      have shapeEq : scheme.shape = ⟨10, 2, 2⟩ := Outcome.ensure_eq_ok_iff.mp layoutOk
      rw [shapeEq]
      have all : ∀ domain ∈ Placement.repairOptimized.domains,
          Shape.Scattered ⟨10, 2, 2⟩ domain ∨ Shape.Confined ⟨10, 2, 2⟩ domain := by
        unfold Shape.Scattered Shape.Confined
        decide
      exact all domain member
  | optimizedMaintenance approach =>
      rw [isLayout] at member layoutOk
      have shapeEq : scheme.shape = ⟨10, 2, 2⟩ := Outcome.ensure_eq_ok_iff.mp layoutOk
      rw [shapeEq]
      have all : ∀ domain ∈ Placement.maintenanceOptimized.domains,
          Shape.Scattered ⟨10, 2, 2⟩ domain ∨ Shape.Confined ⟨10, 2, 2⟩ domain := by
        unfold Shape.Scattered Shape.Confined
        decide
      exact all domain member

theorem length_groupMembers_le_one (scattered : scheme.shape.Scattered domain)
    (distinct : domain.Nodup) (group : Nat) :
    (scheme.groupMembers domain group).length ≤ 1 := by
  have membersDistinct : (scheme.groupMembers domain group).Nodup := distinct.filter _
  by_contra many
  obtain ⟨first, second, rest, split⟩ : ∃ first second rest,
      scheme.groupMembers domain group = first :: second :: rest := by
    match isMembers : scheme.groupMembers domain group with
    | [] => simp [isMembers] at many
    | [_] => simp [isMembers] at many
    | first :: second :: rest => exact ⟨first, second, rest, rfl⟩
  have firstMember := mem_groupMembers.mp (split ▸ List.mem_cons_self)
  have secondMember := mem_groupMembers.mp (split ▸ List.mem_cons_of_mem _ List.mem_cons_self)
  have same := scattered first firstMember.1 second secondMember.1 (by simp [firstMember.2])
    (firstMember.2.trans secondMember.2.symm)
  rw [split, same, List.nodup_cons] at membersDistinct
  exact membersDistinct.1 List.mem_cons_self

theorem singleGroup_of_scattered (scattered : scheme.shape.Scattered domain)
    (distinct : domain.Nodup) : scheme.SingleGroup domain := by
  intro left _ _ _ heavy
  have light := length_groupMembers_le_one scattered distinct left
  omega

theorem singleGroup_of_confined (confined : scheme.shape.Confined domain) :
    scheme.SingleGroup domain := by
  obtain ⟨_, group, _, inGroup⟩ := confined
  have isGroup : ∀ other, 2 ≤ (scheme.groupMembers domain other).length → other = group := by
    intro other heavy
    obtain ⟨block, isMember⟩ := List.exists_mem_of_length_pos
      (Nat.lt_of_lt_of_le Nat.zero_lt_two heavy)
    obtain ⟨member, inOther⟩ := mem_groupMembers.mp isMember
    rw [inGroup block member, Option.some.injEq] at inOther
    exact inOther.symm
  intro left _ right _ leftHeavy rightHeavy
  rw [isGroup left leftHeavy, isGroup right rightHeavy]

/-- The data of every domain of a scheme can be recovered. -/
theorem Sound.determined_domain (sound : scheme.Sound) (member : domain ∈ scheme.domains) :
    (∃ system, scheme.recoverySystem domain = .ok system) ∧ scheme.Determined domain := by
  have distinct := sound.nodup_domain member
  have inside := fun block (inDomain : block ∈ domain) =>
    sound.lt_of_mem_domain member inDomain
  have conditions : domain.length ≤ scheme.shape.g + (scheme.shape.spannedGroups domain).length ∧
      scheme.SingleGroup domain := by
    rcases sound.domain_cases member with scattered | confined
    · exact ⟨Shape.length_le_of_scattered scattered distinct inside,
        singleGroup_of_scattered scattered distinct⟩
    · exact ⟨Shape.length_le_of_confined confined, singleGroup_of_confined confined⟩
  have supplied : scheme.Supplied domain := by
    have balance := sound.length_domain distinct inside
    rw [Supplied]
    omega
  exact ⟨sound.exists_system distinct supplied,
    sound.determined_of_singleGroup distinct supplied conditions.2⟩

end Scheme

end LocalRepair

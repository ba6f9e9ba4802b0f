import Mathlib
import LocalRepair.Analysis.Tolerance
import LocalRepair.Proofs.Solvability

/-!
# Tolerance and the supply of global parities

For a domain that repeats no block, the tolerance check asks for exactly as many
surviving global parities as the local groups need.
-/

namespace LocalRepair

theorem Shape.checkDomains_eq_ok_iff {shape : Shape} {position : Nat}
    {domains : List FaultDomain} :
    shape.checkDomains position domains = .ok () ↔
      ∀ domain ∈ domains, domain.length ≤ shape.g + (shape.spannedGroups domain).length := by
  induction domains generalizing position with
  | nil => simp [Shape.checkDomains]
  | cons head tail ih =>
      rw [Shape.checkDomains]
      split_ifs with fits
      · rw [ih, List.forall_mem_cons]
        exact (and_iff_right fits).symm
      · constructor
        · intro impossible
          cases impossible
        · intro all
          exact absurd (all head List.mem_cons_self) fits

theorem Shape.localGroup_eq_none_iff {shape : Shape} {block : Nat} :
    shape.localGroup? block = none ↔ shape.k + shape.l ≤ block := by
  unfold Shape.localGroup?
  split_ifs <;> simp <;> omega

theorem Shape.mem_spannedGroups {shape : Shape} {domain : FaultDomain} {group : Nat} :
    group ∈ shape.spannedGroups domain ↔
      ∃ block ∈ domain, shape.localGroup? block = some group := by
  rw [Shape.spannedGroups, Ascending.mem_ofList, List.mem_filterMap]

namespace Scheme

variable {scheme : Scheme} {domain : List Nat}

theorem Sound.localGroup_lt (sound : scheme.Sound) {block group : Nat}
    (inGroup : scheme.shape.localGroup? block = some group) : group < scheme.shape.l := by
  unfold Shape.localGroup? at inGroup
  split_ifs at inGroup with isData isParity
  · rw [← Option.some.inj inGroup]
    exact sound.shape.group_lt isData
  · rw [← Option.some.inj inGroup]
    omega

theorem groupMembers_ne_nil_iff {group : Nat} :
    scheme.groupMembers domain group ≠ [] ↔ group ∈ scheme.shape.spannedGroups domain := by
  rw [Shape.mem_spannedGroups]
  constructor
  · intro nonempty
    obtain ⟨block, isMember⟩ := List.exists_mem_of_ne_nil _ nonempty
    exact ⟨block, mem_groupMembers.mp isMember⟩
  · rintro ⟨block, member⟩
    exact List.ne_nil_of_mem (mem_groupMembers.mpr member)

theorem Sound.length_spannedGroups (sound : scheme.Sound) :
    (scheme.shape.spannedGroups domain).length =
      ((List.range scheme.shape.l).filter fun group =>
        scheme.groupMembers domain group ≠ []).length := by
  have spannedDistinct : (scheme.shape.spannedGroups domain).Nodup :=
    (Ascending.pairwise_ofList _).imp Nat.ne_of_lt
  apply List.Perm.length_eq
  rw [List.perm_ext_iff_of_nodup spannedDistinct (List.nodup_range.filter _)]
  intro group
  rw [List.mem_filter, decide_eq_true_eq, List.mem_range, groupMembers_ne_nil_iff, iff_and_self]
  intro spans
  obtain ⟨block, _, inGroup⟩ := Shape.mem_spannedGroups.mp spans
  exact sound.localGroup_lt inGroup

theorem Sound.sum_length_groupMembers (sound : scheme.Sound) :
    ((List.range scheme.shape.l).map fun group =>
      (scheme.groupMembers domain group).length).sum =
        (domain.filter fun block => (scheme.shape.localGroup? block).isSome).length := by
  have inside : ∀ block ∈ domain.filter fun block => (scheme.shape.localGroup? block).isSome,
      (scheme.shape.localGroup? block).getD 0 < scheme.shape.l := by
    intro block member
    obtain ⟨group, inGroup⟩ := Option.isSome_iff_exists.mp (List.mem_filter.mp member).2
    rw [inGroup, Option.getD_some]
    exact sound.localGroup_lt inGroup
  rw [← sum_length_filter _ inside]
  congr 1
  apply List.map_congr_left
  intro group _
  rw [List.filter_filter, groupMembers]
  congr 1
  apply List.filter_congr
  intro block _
  cases scheme.shape.localGroup? block with
  | none => simp
  | some other => simp

theorem length_survivingGlobals (distinct : domain.Nodup)
    (inside : ∀ block ∈ domain, block < scheme.n) :
    (scheme.survivingGlobals domain).length +
      (domain.filter fun block => (scheme.shape.localGroup? block).isNone).length =
        scheme.shape.g := by
  have globalsDistinct : scheme.shape.globalParities.Nodup := List.nodup_range'
  have lost : (domain.filter fun block => (scheme.shape.localGroup? block).isNone).Perm
      (scheme.shape.globalParities.filter fun parity => !decide (parity ∉ domain)) := by
    rw [List.perm_ext_iff_of_nodup (distinct.filter _) (globalsDistinct.filter _)]
    intro block
    rw [List.mem_filter, List.mem_filter, Option.isNone_iff_eq_none,
      Shape.localGroup_eq_none_iff, Shape.mem_globalParities]
    constructor
    · rintro ⟨member, beyond⟩
      exact ⟨⟨beyond, inside block member⟩, by simpa using member⟩
    · rintro ⟨⟨beyond, _⟩, member⟩
      exact ⟨by simpa using member, beyond⟩
  have whole := List.length_eq_length_filter_add (l := scheme.shape.globalParities)
    fun parity => decide (parity ∉ domain)
  rw [lost.length_eq, survivingGlobals, ← whole, Shape.globalParities, List.length_range']

/-- What a domain holds and what is left of the global parities balance the demand. -/
theorem Sound.length_domain (sound : scheme.Sound) (distinct : domain.Nodup)
    (inside : ∀ block ∈ domain, block < scheme.n) :
    domain.length + (scheme.survivingGlobals domain).length =
      scheme.demand domain (List.range scheme.shape.l) +
        (scheme.shape.spannedGroups domain).length + scheme.shape.g := by
  have members : scheme.demand domain (List.range scheme.shape.l) +
      (scheme.shape.spannedGroups domain).length =
        (domain.filter fun block => (scheme.shape.localGroup? block).isSome).length := by
    rw [sound.length_spannedGroups, demand_add_length_filter, ← sound.sum_length_groupMembers]
    congr 1
    apply List.map_congr_left
    intro group _
    cases isEmpty : scheme.groupMembers domain group with
    | nil => simp [needed, isEmpty]
    | cons head tail => simp [needed, isEmpty]
  have globals := length_survivingGlobals distinct inside
  have divided := List.length_eq_length_filter_add (l := domain)
    fun block => (scheme.shape.localGroup? block).isSome
  have others : (domain.filter fun block => !(scheme.shape.localGroup? block).isSome) =
      domain.filter fun block => (scheme.shape.localGroup? block).isNone := by
    apply List.filter_congr
    intro block _
    simp
  rw [others] at divided
  omega

/-- The tolerance check supplies the local groups with global parities. -/
theorem Sound.supplied_iff (sound : scheme.Sound) (distinct : domain.Nodup)
    (inside : ∀ block ∈ domain, block < scheme.n) :
    scheme.Supplied domain ↔ scheme.shape.checkTolerance [domain] = .ok () := by
  have balance := sound.length_domain distinct inside
  rw [Shape.checkTolerance, Shape.check_eq_ok_iff.mpr sound.shape, Outcome.ok_bind,
    Shape.checkDomains_eq_ok_iff, List.forall_mem_singleton, Supplied]
  omega

end Scheme

end LocalRepair

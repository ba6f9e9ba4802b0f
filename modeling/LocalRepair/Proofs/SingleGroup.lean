import Mathlib
import LocalRepair.Proofs.Cauchy
import LocalRepair.Proofs.Solvability

/-!
# Domains that take more than one block out of one local group at most

Groups that lose one block settle it by their own parity.  What is left is one
group with a Cauchy matrix, to which its own parity may add a row of ones.
-/

namespace LocalRepair

theorem sum_range_of_supported {blocks : List Nat} {count : Nat} (distinct : blocks.Nodup)
    (inside : ∀ block ∈ blocks, block < count) {value : Nat → GF256}
    (supported : ∀ block < count, block ∉ blocks → value block = 0) :
    ((List.range count).map value).sum = (blocks.map value).sum := by
  rw [← List.sum_toFinset _ List.nodup_range, ← List.sum_toFinset _ distinct]
  symm
  apply Finset.sum_subset
  · intro block member
    exact List.mem_toFinset.mpr (List.mem_range.mpr (inside block (List.mem_toFinset.mp member)))
  · intro block member outside
    exact supported block (List.mem_range.mp (List.mem_toFinset.mp member))
      fun isBlock => outside (List.mem_toFinset.mpr isBlock)

namespace Shape

variable {shape : Shape} {parities blocks : List Nat} {data : Nat → GF256}

private theorem Sound.cauchy (sound : shape.Sound) (paritiesDistinct : parities.Nodup)
    (isGlobal : ∀ parity ∈ parities, parity ∈ shape.globalParities)
    (isData : ∀ block ∈ blocks, block < shape.k) (blocksDistinct : blocks.Nodup)
    (vanish : ∀ parity ∈ parities,
      (blocks.map fun block => shape.coefficient parity block * data block).sum = 0) :
    Set.InjOn GF256.ofNat (blocks.toFinset : Set Nat) ∧
      (parities.map GF256.ofNat).toFinset.card = parities.length ∧
      (∀ point ∈ (parities.map GF256.ofNat).toFinset, ∀ block ∈ blocks.toFinset,
        point ≠ GF256.ofNat block) ∧
      ∀ point ∈ (parities.map GF256.ofNat).toFinset,
        ∑ block ∈ blocks.toFinset, data block / (point - GF256.ofNat block) = 0 := by
  have width := sound.width
  have dataInside := shape.k_le_n
  have small : ∀ parity ∈ parities, parity < 256 := by
    intro parity member
    have := (mem_globalParities.mp (isGlobal parity member)).2
    omega
  refine ⟨?_, ?_, ?_, ?_⟩
  · intro left leftMember right rightMember same
    have leftInside := isData left (List.mem_toFinset.mp leftMember)
    have rightInside := isData right (List.mem_toFinset.mp rightMember)
    exact GF256.ofNat_inj (by omega) (by omega) same
  · rw [List.toFinset_card_of_nodup, List.length_map]
    apply List.Nodup.map_on _ paritiesDistinct
    intro left leftMember right rightMember same
    exact GF256.ofNat_inj (small left leftMember) (small right rightMember) same
  · intro point pointMember block blockMember same
    obtain ⟨parity, member, rfl⟩ := List.mem_map.mp (List.mem_toFinset.mp pointMember)
    have blockInside := isData block (List.mem_toFinset.mp blockMember)
    have equal := GF256.ofNat_inj (small parity member) (by omega) same
    have beyond := (mem_globalParities.mp (isGlobal parity member)).1
    omega
  · intro point pointMember
    obtain ⟨parity, member, rfl⟩ := List.mem_map.mp (List.mem_toFinset.mp pointMember)
    have beyond := (mem_globalParities.mp (isGlobal parity member)).1
    rw [List.sum_toFinset _ blocksDistinct, ← vanish parity member]
    congr 1
    apply List.map_congr_left
    intro block _
    rw [coefficient_global beyond, sub_eq_add_neg, GF256.neg_eq_self, one_div_mul_eq_div]

/-- As many global parities as data blocks vanish for zero only. -/
theorem Sound.eq_zero_of_globals (sound : shape.Sound) (paritiesDistinct : parities.Nodup)
    (isGlobal : ∀ parity ∈ parities, parity ∈ shape.globalParities)
    (isData : ∀ block ∈ blocks, block < shape.k) (blocksDistinct : blocks.Nodup)
    (vanish : ∀ parity ∈ parities,
      (blocks.map fun block => shape.coefficient parity block * data block).sum = 0)
    (enough : blocks.length ≤ parities.length) : ∀ block ∈ blocks, data block = 0 := by
  obtain ⟨injective, count, away, zero⟩ :=
    sound.cauchy paritiesDistinct isGlobal isData blocksDistinct vanish
  intro block member
  apply Cauchy.weights_eq_zero_of_vanish injective _ away zero
  · exact List.mem_toFinset.mpr member
  · rw [count, List.toFinset_card_of_nodup blocksDistinct]
    exact enough

/-- One global parity less is enough if the data adds up to zero. -/
theorem Sound.eq_zero_of_globals_of_sum (sound : shape.Sound)
    (paritiesDistinct : parities.Nodup)
    (isGlobal : ∀ parity ∈ parities, parity ∈ shape.globalParities)
    (isData : ∀ block ∈ blocks, block < shape.k) (blocksDistinct : blocks.Nodup)
    (vanish : ∀ parity ∈ parities,
      (blocks.map fun block => shape.coefficient parity block * data block).sum = 0)
    (total : (blocks.map data).sum = 0)
    (enough : blocks.length ≤ parities.length + 1) : ∀ block ∈ blocks, data block = 0 := by
  obtain ⟨injective, count, away, zero⟩ :=
    sound.cauchy paritiesDistinct isGlobal isData blocksDistinct vanish
  intro block member
  apply Cauchy.weights_eq_zero_of_vanish_of_sum injective _ away zero
  · rw [List.sum_toFinset _ blocksDistinct]
    exact total
  · exact List.mem_toFinset.mpr member
  · rw [count, List.toFinset_card_of_nodup blocksDistinct]
    exact enough

end Shape

namespace Scheme

variable {scheme : Scheme} {domain : List Nat}

/-- No two local groups lose two blocks or more. -/
def SingleGroup (scheme : Scheme) (domain : List Nat) : Prop :=
  ∀ left < scheme.shape.l, ∀ right < scheme.shape.l,
    2 ≤ (scheme.groupMembers domain left).length →
    2 ≤ (scheme.groupMembers domain right).length → left = right

section

variable {data : Nat → GF256}
  (supported : ∀ block < scheme.k, block ∉ domain → data block = 0)
  (vanish : ∀ parity ∈ scheme.usedParities domain,
    ((List.range scheme.k).map fun col =>
      scheme.shape.coefficient parity col * data col).sum = 0)

include supported vanish

private theorem sum_lostOfGroup_eq_zero {group : Nat} (inside : group < scheme.shape.l)
    (keeps : scheme.keepsParity domain group = true) :
    ((scheme.lostOfGroup domain group).map data).sum = 0 := by
  have used : scheme.shape.localParity group ∈ scheme.usedParities domain := by
    apply List.mem_append_right
    exact List.mem_map_of_mem (List.mem_filter.mpr ⟨List.mem_range.mpr inside, keeps⟩)
  have outside : ∀ block < scheme.k, block ∉ scheme.lostOfGroup domain group →
      scheme.shape.coefficient (scheme.shape.localParity group) block * data block = 0 := by
    intro block isData other
    rw [Shape.coefficient_localParity inside]
    split_ifs with inGroup
    · rw [supported block isData fun lost => other (mem_lostOfGroup.mpr ⟨isData, lost, inGroup⟩),
        mul_zero]
    · exact zero_mul _
  have zero := vanish _ used
  rw [sum_range_of_supported nodup_lostOfGroup
    (fun block member => (mem_lostOfGroup.mp member).1) outside] at zero
  rw [← zero]
  congr 1
  apply List.map_congr_left
  intro block member
  rw [Shape.coefficient_localParity inside, if_pos (mem_lostOfGroup.mp member).2.2, one_mul]

private theorem eq_zero_of_light (distinct : domain.Nodup) {group : Nat}
    (inside : group < scheme.shape.l) (light : (scheme.groupMembers domain group).length < 2) :
    ∀ block ∈ scheme.lostOfGroup domain group, data block = 0 := by
  intro block member
  have count := length_groupMembers distinct inside
  have positive := List.length_pos_of_mem member
  have alive : scheme.shape.localParity group ∉ domain := by
    intro lost
    rw [if_pos lost] at count
    omega
  rw [if_neg alive] at count
  have nonempty : scheme.groupMembers domain group ≠ [] := by
    rw [← List.length_pos_iff]
    omega
  have total := sum_lostOfGroup_eq_zero supported vanish inside
    ((keepsParity_iff inside).mpr ⟨nonempty, alive⟩)
  obtain ⟨only, single⟩ := List.length_eq_one_iff.mp
    (show (scheme.lostOfGroup domain group).length = 1 by omega)
  rw [single] at total member
  rw [List.mem_singleton.mp member]
  simpa using total

/-- The only group that loses more is settled by the global parities, with the help
of its own parity if that survives. -/
private theorem Sound.eq_zero_of_heavy (sound : scheme.Sound) (distinct : domain.Nodup)
    (supplied : scheme.Supplied domain) {group : Nat} (inside : group < scheme.shape.l)
    (heavy : 2 ≤ (scheme.groupMembers domain group).length)
    (others : ∀ block < scheme.k, block ∉ scheme.lostOfGroup domain group → data block = 0) :
    ∀ block ∈ scheme.lostOfGroup domain group, data block = 0 := by
  have globalsDistinct : ((scheme.survivingGlobals domain).take
      (scheme.demand domain (List.range scheme.shape.l))).Nodup :=
    nodup_survivingGlobals.sublist (List.take_sublist _ _)
  have isGlobal : ∀ parity ∈ (scheme.survivingGlobals domain).take
      (scheme.demand domain (List.range scheme.shape.l)),
        parity ∈ scheme.shape.globalParities :=
    fun parity member => (List.mem_filter.mp (List.mem_of_mem_take member)).1
  have isData : ∀ block ∈ scheme.lostOfGroup domain group, block < scheme.shape.k :=
    fun block member => (mem_lostOfGroup.mp member).1
  have zeros : ∀ parity ∈ (scheme.survivingGlobals domain).take
      (scheme.demand domain (List.range scheme.shape.l)),
        ((scheme.lostOfGroup domain group).map fun block =>
          scheme.shape.coefficient parity block * data block).sum = 0 := by
    intro parity member
    rw [← sum_range_of_supported nodup_lostOfGroup isData]
    · exact vanish parity (List.mem_append_left _ member)
    · intro block isBlock other
      rw [others block isBlock other, mul_zero]
  have count := length_groupMembers distinct inside
  have taken : scheme.needed domain group ≤ ((scheme.survivingGlobals domain).take
      (scheme.demand domain (List.range scheme.shape.l))).length := by
    rw [List.length_take, Nat.min_eq_left supplied, demand]
    exact List.le_sum_of_mem (List.mem_map_of_mem (List.mem_range.mpr inside))
  rw [needed] at taken
  by_cases parityLost : scheme.shape.localParity group ∈ domain
  · rw [if_pos parityLost] at count
    exact sound.shape.eq_zero_of_globals globalsDistinct isGlobal isData nodup_lostOfGroup zeros
      (by omega)
  · rw [if_neg parityLost] at count
    have nonempty : scheme.groupMembers domain group ≠ [] := by
      rw [← List.length_pos_iff]
      omega
    have total := sum_lostOfGroup_eq_zero supported vanish inside
      ((keepsParity_iff inside).mpr ⟨nonempty, parityLost⟩)
    exact sound.shape.eq_zero_of_globals_of_sum globalsDistinct isGlobal isData
      nodup_lostOfGroup zeros total (by omega)

end

/-- A domain that takes more than one block out of one local group at most determines
its data. -/
theorem Sound.determined_of_singleGroup (sound : scheme.Sound) (distinct : domain.Nodup)
    (supplied : scheme.Supplied domain) (single : scheme.SingleGroup domain) :
    scheme.Determined domain := by
  intro data supported vanish
  have light : ∀ group < scheme.shape.l, (scheme.groupMembers domain group).length < 2 →
      ∀ block ∈ scheme.lostOfGroup domain group, data block = 0 :=
    fun group inside => eq_zero_of_light supported vanish distinct inside
  have grouped : ∀ block < scheme.k, block ∈ domain →
      block ∈ scheme.lostOfGroup domain (block / scheme.shape.b) :=
    fun block isData lost => mem_lostOfGroup.mpr ⟨isData, lost, rfl⟩
  intro block isData
  by_cases lost : block ∈ domain
  · have inside := sound.shape.group_lt isData
    by_cases isLight : (scheme.groupMembers domain (block / scheme.shape.b)).length < 2
    · exact light _ inside isLight block (grouped block isData lost)
    · have heavy := Nat.le_of_not_lt isLight
      apply sound.eq_zero_of_heavy supported vanish distinct supplied inside heavy _ block
        (grouped block isData lost)
      intro other otherIsData otherGroup
      by_cases otherLost : other ∈ domain
      · have otherInside := sound.shape.group_lt otherIsData
        apply light _ otherInside _ other (grouped other otherIsData otherLost)
        by_contra otherHeavy
        have same := single _ inside _ otherInside heavy (Nat.le_of_not_lt otherHeavy)
        exact otherGroup (mem_lostOfGroup.mpr ⟨otherIsData, otherLost, same.symm⟩)
      · exact supported other otherIsData otherLost
  · exact supported block isData lost

end Scheme

end LocalRepair

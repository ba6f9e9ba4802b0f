import Mathlib
import LocalRepair.Scheme.Basic
import LocalRepair.Proofs.Codeword
import LocalRepair.Proofs.Lists

/-!
# Schemes that constructors return

Whichever constructor accepts its parameters, the scheme has a shape and a
layout that pass their checks, the generator of the shape, and fault domains that
divide the blocks.
-/

namespace LocalRepair

theorem checkBlocks_eq_ok_iff {n : Nat} {seen blocks : List Nat} :
    checkBlocks n seen blocks = .ok () ↔
      blocks.Nodup ∧ ∀ block ∈ blocks, block < n ∧ block ∉ seen := by
  induction blocks generalizing seen with
  | nil => simp [checkBlocks]
  | cons head tail ih =>
      rw [checkBlocks]
      split_ifs with outside repeated
      · constructor
        · intro impossible
          cases impossible
        · rintro ⟨_, inside⟩
          have := (inside head List.mem_cons_self).1
          omega
      · constructor
        · intro impossible
          cases impossible
        · rintro ⟨_, inside⟩
          exact absurd repeated (inside head List.mem_cons_self).2
      · rw [ih, List.nodup_cons]
        constructor
        · rintro ⟨distinct, inside⟩
          refine ⟨⟨fun member => (inside head member).2 List.mem_cons_self, distinct⟩, ?_⟩
          intro block member
          rcases List.mem_cons.mp member with rfl | later
          · exact ⟨by omega, repeated⟩
          · exact ⟨(inside block later).1, fun old =>
              (inside block later).2 (List.mem_cons_of_mem head old)⟩
        · rintro ⟨⟨fresh, distinct⟩, inside⟩
          refine ⟨distinct, ?_⟩
          intro block member
          obtain ⟨below, unseen⟩ := inside block (List.mem_cons_of_mem head member)
          refine ⟨below, ?_⟩
          rw [List.mem_cons, not_or]
          exact ⟨fun same => fresh (same ▸ member), unseen⟩

/-- Domains pass the check if they hold each block of a stripe once and no other
block. -/
theorem checkPartition_eq_ok_iff {domains : List FaultDomain} {n : Nat} :
    checkPartition domains n = .ok () ↔
      domains.flatten.Nodup ∧ ∀ block, block ∈ domains.flatten ↔ block < n := by
  rw [checkPartition, Outcome.bind_eq_ok_iff]
  constructor
  · rintro ⟨_, blocksOk, complete⟩
    obtain ⟨distinct, inside⟩ := checkBlocks_eq_ok_iff.mp blocksOk
    refine ⟨distinct, fun block => ⟨fun member => (inside block member).1, ?_⟩⟩
    intro below
    split at complete
    · cases complete
    · rename_i none
      simpa using List.find?_eq_none.mp none block (List.mem_range.mpr below)
  · rintro ⟨distinct, members⟩
    refine ⟨(), checkBlocks_eq_ok_iff.mpr ⟨distinct, ?_⟩, ?_⟩
    · intro block member
      exact ⟨(members block).mp member, List.not_mem_nil⟩
    · have none : (List.range n).find? (· ∉ domains.flatten) = none := by
        rw [List.find?_eq_none]
        intro block below
        simpa using (members block).mpr (List.mem_range.mp below)
      rw [none]

theorem checkPartition_eq_ok_iff_perm {domains : List FaultDomain} {n : Nat} :
    checkPartition domains n = .ok () ↔ domains.flatten.Perm (List.range n) := by
  rw [checkPartition_eq_ok_iff]
  constructor
  · rintro ⟨distinct, members⟩
    rw [List.perm_ext_iff_of_nodup distinct List.nodup_range]
    intro block
    rw [members, List.mem_range]
  · intro divided
    refine ⟨divided.nodup_iff.mpr List.nodup_range, fun block => ?_⟩
    rw [divided.mem_iff, List.mem_range]

namespace Scheme

/-- What the constructors establish. -/
structure Sound (scheme : Scheme) : Prop where
  shape : scheme.shape.Sound
  subpackets : scheme.subpackets ≠ 0
  layout : scheme.layout.check scheme.shape = .ok ()
  partition : checkPartition scheme.domains scheme.n = .ok ()
  generator : scheme.freshGenerator = .ok scheme.generator

theorem Sound.generates {scheme : Scheme} (sound : scheme.Sound) :
    scheme.shape.Generates scheme.generator :=
  (Shape.generates_of_generator sound.generator).2

theorem sound_of_build {layout : Layout} {shape : Shape} {n subpackets : Nat}
    {optimization : Int} {scheme : Scheme}
    (success : build layout shape n subpackets optimization = .ok scheme) :
    scheme.Sound := by
  rw [build, Outcome.bind_eq_ok_iff] at success
  obtain ⟨_, shapeOk, success⟩ := success
  rw [Outcome.bind_eq_ok_iff] at success
  obtain ⟨_, _, success⟩ := success
  rw [Outcome.bind_eq_ok_iff] at success
  obtain ⟨_, subpacketsOk, success⟩ := success
  rw [Outcome.bind_eq_ok_iff] at success
  obtain ⟨_, layoutOk, success⟩ := success
  rw [Outcome.bind_eq_ok_iff] at success
  obtain ⟨_, partitionOk, success⟩ := success
  rw [Outcome.bind_eq_ok_iff] at success
  obtain ⟨matrix, generatorOk, same⟩ := success
  cases same
  have sound := Shape.check_eq_ok_iff.mp shapeOk
  exact ⟨sound, Outcome.ensure_eq_ok_iff.mp subpacketsOk, layoutOk, partitionOk, generatorOk⟩

/-- The schemes that some constructor returns. -/
inductive Constructed (scheme : Scheme) : Prop where
  | construct {kind : SchemeKind} {n k subpackets : Nat} {optimization : Int}
      {parameters : List String}
      (success : construct kind n k subpackets optimization parameters = .ok scheme)
  | flat {k l g : Nat} (success : flat k l g = .ok scheme)
  | tradeoff {k l g eta : Nat} {approach : Approach}
      (success : tradeoff k l g eta approach = .ok scheme)
  | optimizedRepair {approach : Approach} (success : optimizedRepair approach = .ok scheme)
  | optimizedMaintenance {approach : Approach}
      (success : optimizedMaintenance approach = .ok scheme)

/-- All constructors run the same checks. -/
theorem Constructed.sound {scheme : Scheme} (constructed : scheme.Constructed) :
    scheme.Sound := by
  cases constructed with
  | construct success =>
      rw [Scheme.construct, Outcome.bind_eq_ok_iff] at success
      obtain ⟨_, _, success⟩ := success
      rw [Outcome.bind_eq_ok_iff] at success
      obtain ⟨_, _, success⟩ := success
      rw [Outcome.bind_eq_ok_iff] at success
      obtain ⟨⟨l, g, layout⟩, _, built⟩ := success
      exact sound_of_build built
  | flat success => exact sound_of_build success
  | tradeoff success => exact sound_of_build success
  | optimizedRepair success => exact sound_of_build success
  | optimizedMaintenance success => exact sound_of_build success

section

variable {scheme : Scheme}

theorem Sound.nodup_flatten_domains (sound : scheme.Sound) : scheme.domains.flatten.Nodup :=
  (checkPartition_eq_ok_iff.mp sound.partition).1

theorem Sound.nodup_domain (sound : scheme.Sound) {domain : FaultDomain}
    (member : domain ∈ scheme.domains) : domain.Nodup :=
  (List.nodup_flatten.mp sound.nodup_flatten_domains).1 domain member

theorem Sound.disjoint_domains (sound : scheme.Sound) :
    scheme.domains.Pairwise List.Disjoint :=
  (List.nodup_flatten.mp sound.nodup_flatten_domains).2

theorem Sound.mem_flatten_domains (sound : scheme.Sound) {block : Nat} :
    block ∈ scheme.domains.flatten ↔ block < scheme.n :=
  (checkPartition_eq_ok_iff.mp sound.partition).2 block

theorem Sound.lt_of_mem_domain (sound : scheme.Sound) {domain : FaultDomain}
    (member : domain ∈ scheme.domains) {block : Nat} (inDomain : block ∈ domain) :
    block < scheme.n :=
  sound.mem_flatten_domains.mp (List.mem_flatten.mpr ⟨domain, member, inDomain⟩)

theorem Sound.domain_unique (sound : scheme.Sound) {left right : FaultDomain}
    (leftMember : left ∈ scheme.domains) (rightMember : right ∈ scheme.domains) {block : Nat}
    (inLeft : block ∈ left) (inRight : block ∈ right) : left = right :=
  eq_of_mem_of_nodup_flatten sound.nodup_flatten_domains leftMember rightMember inLeft inRight

end

end Scheme

end LocalRepair

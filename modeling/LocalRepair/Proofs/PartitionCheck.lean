import Mathlib
import LocalRepair.Proofs.TouchedDomains

/-!
# What the check of a partition reports

Domains pass the check exactly if together they hold each block of a stripe once and no
other block; each block then has one position.  Otherwise the check reports the first
entry, in the order of the domains, that is out of range or repeats one before it, and
only where there is none the smallest block that is left out.
-/

namespace LocalRepair

open Outcome

/-- Blocks below a bound, none of them twice. -/
structure DistinctBelow (n : Nat) (blocks : List Nat) : Prop where
  distinct : blocks.Nodup
  inside : ∀ block ∈ blocks, block < n

/-- The fault that keeps blocks from being those below a bound, once each. -/
inductive PartitionFault (n : Nat) (blocks : List Nat) : ConfigError → Prop where
  | outside {before after : List Nat} {block : Nat}
      (division : blocks = before ++ block :: after) (faultless : DistinctBelow n before)
      (beyond : n ≤ block) : PartitionFault n blocks (.blockOutside block n)
  | repeated {before after : List Nat} {block : Nat}
      (division : blocks = before ++ block :: after) (faultless : DistinctBelow n before)
      (again : block ∈ before) : PartitionFault n blocks (.blockRepeated block)
  | omitted {block : Nat} (faultless : DistinctBelow n blocks) (below : block < n)
      (absent : block ∉ blocks) (others : ∀ smaller < block, smaller ∈ blocks) :
      PartitionFault n blocks (.blockOmitted block)

section

variable {n : Nat} {seen blocks : List Nat}

theorem checkBlocks_nil_eq_ok_iff :
    checkBlocks n [] blocks = .ok () ↔ DistinctBelow n blocks := by
  rw [checkBlocks_eq_ok_iff]
  constructor
  · rintro ⟨distinct, inside⟩
    exact ⟨distinct, fun block member => (inside block member).1⟩
  · rintro ⟨distinct, inside⟩
    exact ⟨distinct, fun block member => ⟨inside block member, List.not_mem_nil⟩⟩

theorem scans_checkBlocks (n : Nat) : Scans (checkBlocks n) := by
  refine ⟨fun _ => rfl, ?_⟩
  intro seen block rest
  rw [checkBlocks, checkBlocks]
  split_ifs <;> rfl

theorem checkBlocks_singleton_eq_error_iff {block : Nat} {cause : Error} :
    checkBlocks n seen [block] = .error cause ↔
      n ≤ block ∧ cause = .config (.blockOutside block n) ∨
        block < n ∧ block ∈ seen ∧ cause = .config (.blockRepeated block) := by
  rw [checkBlocks]
  split_ifs with beyond again
  · simp [beyond, eq_comm]
  · simp [again, Nat.lt_of_not_le beyond, eq_comm]
  · simp [checkBlocks, beyond, again]

theorem checkBlocks_nil_eq_error_iff {cause : Error} :
    checkBlocks n [] blocks = .error cause ↔
      ∃ before block after, blocks = before ++ block :: after ∧ DistinctBelow n before ∧
        (n ≤ block ∧ cause = .config (.blockOutside block n) ∨
          block ∈ before ∧ cause = .config (.blockRepeated block)) := by
  rw [(scans_checkBlocks n).eq_error_iff]
  simp only [checkBlocks_nil_eq_ok_iff, checkBlocks_singleton_eq_error_iff, List.append_nil,
    List.mem_reverse]
  constructor
  · rintro ⟨before, block, after, division, faultless, beyond | ⟨_, again⟩⟩
    · exact ⟨before, block, after, division, faultless, .inl beyond⟩
    · exact ⟨before, block, after, division, faultless, .inr again⟩
  · rintro ⟨before, block, after, division, faultless, beyond | again⟩
    · exact ⟨before, block, after, division, faultless, .inl beyond⟩
    · have below := faultless.inside block again.1
      exact ⟨before, block, after, division, faultless, .inr ⟨below, again⟩⟩

theorem find?_absent_eq_some_iff {block : Nat} :
    (List.range n).find? (· ∉ blocks) = some block ↔
      block < n ∧ block ∉ blocks ∧ ∀ smaller < block, smaller ∈ blocks := by
  rw [List.find?_range_eq_some]
  simp only [decide_eq_true_eq, List.mem_range, Bool.not_eq_true', decide_eq_false_iff_not,
    not_not]
  exact and_left_comm

end

theorem checkPartition_eq_ok_iff_count {domains : List FaultDomain} {n : Nat} :
    checkPartition domains n = .ok () ↔
      (∀ block < n, domains.flatten.count block = 1) ∧ ∀ block ∈ domains.flatten, block < n := by
  rw [checkPartition_eq_ok_iff]
  constructor
  · rintro ⟨distinct, members⟩
    refine ⟨fun block below => ?_, fun block member => (members block).mp member⟩
    exact List.count_eq_one_of_mem distinct ((members block).mpr below)
  · rintro ⟨once, inside⟩
    refine ⟨List.nodup_iff_count_le_one.mpr fun block => ?_, fun block => ⟨inside block, ?_⟩⟩
    · by_cases below : block < n
      · exact (once block below).le
      · have absent : block ∉ domains.flatten := fun member => below (inside block member)
        rw [List.count_eq_zero_of_not_mem absent]
        exact Nat.zero_le 1
    · intro below
      apply List.count_pos_iff.mp
      rw [once block below]
      exact Nat.zero_lt_one

theorem PartitionFault.reported {domains : List FaultDomain} {n : Nat} {detail : ConfigError}
    (fault : PartitionFault n domains.flatten detail) :
    checkPartition domains n = .error (.config detail) := by
  have entry : ∀ cause, checkBlocks n [] domains.flatten = .error cause →
      checkPartition domains n = .error cause := by
    intro cause refused
    rw [checkPartition, refused, error_bind]
  cases fault with
  | outside division faultless beyond =>
      apply entry
      exact checkBlocks_nil_eq_error_iff.mpr
        ⟨_, _, _, division, faultless, .inl ⟨beyond, rfl⟩⟩
  | repeated division faultless again =>
      apply entry
      exact checkBlocks_nil_eq_error_iff.mpr
        ⟨_, _, _, division, faultless, .inr ⟨again, rfl⟩⟩
  | omitted faultless below absent others =>
      have omitted := find?_absent_eq_some_iff.mpr ⟨below, absent, others⟩
      rw [checkPartition, checkBlocks_nil_eq_ok_iff.mpr faultless, ok_bind, omitted]

theorem exists_partitionFault {domains : List FaultDomain} {n : Nat} {cause : Error}
    (refused : checkPartition domains n = .error cause) :
    ∃ detail, cause = .config detail ∧ PartitionFault n domains.flatten detail := by
  rw [checkPartition] at refused
  cases entries : checkBlocks n [] domains.flatten with
  | error other =>
      rw [entries, error_bind, Except.error.injEq] at refused
      subst refused
      obtain ⟨before, block, after, division, faultless, ⟨beyond, rfl⟩ | ⟨again, rfl⟩⟩ :=
        checkBlocks_nil_eq_error_iff.mp entries
      · exact ⟨_, rfl, .outside division faultless beyond⟩
      · exact ⟨_, rfl, .repeated division faultless again⟩
  | ok =>
      rw [entries, ok_bind] at refused
      split at refused
      case h_1 block omitted =>
        obtain ⟨below, absent, others⟩ := find?_absent_eq_some_iff.mp omitted
        cases refused
        exact ⟨_, rfl, .omitted (checkBlocks_nil_eq_ok_iff.mp entries) below absent others⟩
      case h_2 => cases refused

/-- In domains that pass the check, a block has the position that the look-up finds, and no
other. -/
theorem domainPosition?_of_checkPartition {domains : List FaultDomain} {n block : Nat}
    (divided : checkPartition domains n = .ok ()) (below : block < n) :
    ∃ position, domainPosition? domains block = some position ∧
      ∀ other, (∃ domain, domains[other]? = some domain ∧ block ∈ domain) ↔ other = position := by
  obtain ⟨distinct, members⟩ := checkPartition_eq_ok_iff.mp divided
  have apart := (List.nodup_flatten.mp distinct).2
  obtain ⟨position, found, unique⟩ :=
    existsUnique_position_of_nodup_flatten distinct ((members block).mpr below)
  refine ⟨position, (domainPosition?_eq_some_iff apart).mpr found, fun other => ⟨unique other, ?_⟩⟩
  rintro rfl
  exact found

/-- The check of a partition accepts exactly the domains that hold each block once, reports
exactly the first fault of all others, and makes sure that a block has one position. -/
theorem checkPartition_exact (domains : List FaultDomain) (n : Nat) :
    (checkPartition domains n = .ok () ↔
      (∀ block < n, domains.flatten.count block = 1) ∧ ∀ block ∈ domains.flatten, block < n) ∧
    (∀ cause, checkPartition domains n = .error cause ↔
      ∃ detail, cause = .config detail ∧ PartitionFault n domains.flatten detail) ∧
    (checkPartition domains n = .ok () → ∀ block < n,
      ∃ position, domainPosition? domains block = some position ∧
        ∀ other, (∃ domain, domains[other]? = some domain ∧ block ∈ domain) ↔
          other = position) := by
  refine ⟨checkPartition_eq_ok_iff_count, fun cause => ⟨exists_partitionFault, ?_⟩, ?_⟩
  · rintro ⟨detail, rfl, fault⟩
    exact fault.reported
  · exact fun divided block below => domainPosition?_of_checkPartition divided below

/-- Domains with an empty one among them; an entry out of range before one that is
repeated; an entry that is repeated although a block is left out. -/
theorem checkPartition_exact_mixed :
    checkPartition [[2, 0], [], [1]] 3 = .ok () ∧
    (∃ position, domainPosition? [[2, 0], [], [1]] 1 = some position ∧
      ∀ other, (∃ domain, [[2, 0], [], [1]][other]? = some domain ∧ 1 ∈ domain) ↔
        other = position) ∧
    checkPartition [[0, 7], [0]] 3 = .error (.config (.blockOutside 7 3)) ∧
    checkPartition [[1], [0, 1]] 3 = .error (.config (.blockRepeated 1)) ∧
    checkPartition [[3], [0]] 4 = .error (.config (.blockOmitted 1)) := by
  obtain ⟨accepted, _, placed⟩ := checkPartition_exact [[2, 0], [], [1]] 3
  obtain ⟨_, outside, _⟩ := checkPartition_exact [[0, 7], [0]] 3
  obtain ⟨_, repeated, _⟩ := checkPartition_exact [[1], [0, 1]] 3
  obtain ⟨_, omitted, _⟩ := checkPartition_exact [[3], [0]] 4
  have divided := accepted.mpr (by decide)
  refine ⟨divided, placed divided 1 (by decide), ?_, ?_, ?_⟩
  · have division : [[0, 7], [0]].flatten = [0] ++ 7 :: [0] := rfl
    exact (outside _).mpr ⟨_, rfl, .outside division ⟨by decide, by decide⟩ (by decide)⟩
  · have division : [[1], [0, 1]].flatten = [1, 0] ++ 1 :: [] := rfl
    exact (repeated _).mpr ⟨_, rfl, .repeated division ⟨by decide, by decide⟩ (by decide)⟩
  · exact (omitted _).mpr ⟨_, rfl, .omitted ⟨by decide, by decide⟩ (by decide) (by decide)
      (by decide)⟩

end LocalRepair

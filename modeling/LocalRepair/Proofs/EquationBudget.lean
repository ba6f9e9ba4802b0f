import Mathlib
import LocalRepair.Proofs.Tolerance

/-!
# The budget of equations

Every local group that loses `c` blocks asks for `c - 1` global parities.  A domain has
a recovery system exactly if those that survive are enough and no entry of a local group
is repeated: a repeated entry brings an equation that belongs to no lost block, and
equations that are left over in one group never stand in for those missing in another.
-/

namespace LocalRepair

namespace Shape

/-- The number of entries of a domain among the data blocks and the parity of a local
group. -/
def losses (shape : Shape) (domain : List Nat) (group : Nat) : Nat :=
  domain.countP fun block => block ∈ shape.groupData group ∨ block = shape.localParity group

/-- A domain names no block of a local group twice, and what the groups lose beyond one
block each is no more than the global parities outside the domain. -/
structure WithinBudget (shape : Shape) (domain : List Nat) : Prop where
  distinct : ∀ block < shape.k + shape.l, domain.count block ≤ 1
  affordable : ((List.range shape.l).map fun group => shape.losses domain group - 1).sum ≤
    ((List.range' (shape.k + shape.l) shape.g).filter (· ∉ domain)).length

end Shape

namespace Scheme

variable {scheme : Scheme} {domain : List Nat}

theorem Sound.losses_eq (sound : scheme.Sound) {group : Nat} (inside : group < scheme.shape.l) :
    scheme.shape.losses domain group = (scheme.groupMembers domain group).length := by
  rw [Shape.losses, List.countP_eq_length_filter, groupMembers]
  congr 1
  apply List.filter_congr
  intro block _
  rw [decide_eq_decide, localGroup_eq_some_iff inside, sound.shape.mem_groupData]
  constructor
  · rintro (inGroup | isParity)
    · have isData := sound.shape.groupData_inside inside (sound.shape.mem_groupData.mpr inGroup)
      exact .inl ⟨isData, inGroup⟩
    · exact .inr isParity
  · rintro (⟨_, inGroup⟩ | isParity)
    · exact .inl inGroup
    · exact .inr isParity

theorem Sound.supplied_iff_affordable (sound : scheme.Sound) :
    scheme.Supplied domain ↔
      ((List.range scheme.shape.l).map fun group => scheme.shape.losses domain group - 1).sum ≤
        ((List.range' (scheme.shape.k + scheme.shape.l) scheme.shape.g).filter
          (· ∉ domain)).length := by
  have demanded : (List.range scheme.shape.l).map
        (fun group => scheme.shape.losses domain group - 1) =
      (List.range scheme.shape.l).map (scheme.needed domain) := by
    apply List.map_congr_left
    intro group member
    rw [sound.losses_eq (List.mem_range.mp member), needed]
  rw [demanded]
  rfl

theorem count_groupMembers {block group : Nat}
    (inGroup : scheme.shape.localGroup? block = some group) :
    (scheme.groupMembers domain group).count block = domain.count block :=
  List.count_filter (decide_eq_true inGroup)

theorem Sound.repeatedEntries_eq_zero_iff_count (sound : scheme.Sound) :
    scheme.repeatedEntries domain = 0 ↔
      ∀ block < scheme.shape.k + scheme.shape.l, domain.count block ≤ 1 := by
  rw [repeatedEntries_eq_zero_iff]
  constructor
  · intro distinct block below
    have grouped : scheme.shape.localGroup? block ≠ none := by
      rw [Ne, Shape.localGroup_eq_none_iff]
      omega
    obtain ⟨group, inGroup⟩ := Option.ne_none_iff_exists'.mp grouped
    have once := List.nodup_iff_count_le_one.mp
      (distinct group (sound.localGroup_lt inGroup)) block
    rwa [count_groupMembers inGroup] at once
  · intro once group _
    rw [List.nodup_iff_count_le_one]
    intro block
    -- entries of other groups, global parities and indices past the stripe are no members
    by_cases member : block ∈ scheme.groupMembers domain group
    · have inGroup := (mem_groupMembers.mp member).2
      have below : block < scheme.shape.k + scheme.shape.l := by
        by_contra beyond
        rw [Shape.localGroup_eq_none_iff.mpr (Nat.le_of_not_lt beyond)] at inGroup
        cases inGroup
      rw [count_groupMembers inGroup]
      exact once block below
    · rw [List.count_eq_zero_of_not_mem member]
      exact Nat.zero_le 1

theorem Sound.withinBudget_iff (sound : scheme.Sound) :
    scheme.shape.WithinBudget domain ↔
      scheme.repeatedEntries domain = 0 ∧ scheme.Supplied domain := by
  rw [sound.repeatedEntries_eq_zero_iff_count, sound.supplied_iff_affordable]
  exact ⟨fun budget => ⟨budget.distinct, budget.affordable⟩,
    fun ⟨distinct, affordable⟩ => ⟨distinct, affordable⟩⟩

/-- A domain, whatever it lists, has a recovery system exactly if it is within the
budget.  The system has one equation for each lost data block; any other domain is
refused as not recoverable.  For domains of different blocks of the stripe the budget is
the tolerance of the code. -/
theorem recoverySystem_iff_withinBudget (constructed : scheme.Constructed)
    (domain : List Nat) :
    ((∃ system, scheme.recoverySystem domain = .ok system) ↔
        scheme.shape.WithinBudget domain) ∧
      (∀ system, scheme.recoverySystem domain = .ok system →
        system.lost = (List.range scheme.k).filter (· ∈ domain) ∧
          system.equations.length = system.lost.length) ∧
      (¬scheme.shape.WithinBudget domain →
        ∃ cause, scheme.recoverySystem domain = .error (.recovery cause)) ∧
      (domain.Nodup → (∀ block ∈ domain, block < scheme.n) →
        (scheme.shape.WithinBudget domain ↔
          scheme.shape.checkTolerance [domain] = .ok ())) := by
  have sound := constructed.sound
  have outcome : (∃ system, scheme.recoverySystem domain = .ok system) ∧
        scheme.shape.WithinBudget domain ∨
      (∃ cause, scheme.recoverySystem domain = .error (.recovery cause)) ∧
        ¬scheme.shape.WithinBudget domain := by
    rw [sound.withinBudget_iff]
    rcases sound.recoverySystem_cases domain with
      ⟨supplied, none, system, systemOk, _⟩ | ⟨_, repeated, refused⟩ | ⟨short, group, refused⟩
    · exact .inl ⟨⟨system, systemOk⟩, none, supplied⟩
    · exact .inr ⟨⟨_, refused⟩, fun budget => repeated budget.1⟩
    · exact .inr ⟨⟨_, refused⟩, fun budget => short budget.2⟩
  refine ⟨?_, ?_, ?_, ?_⟩
  · rcases outcome with ⟨found, budget⟩ | ⟨⟨cause, refused⟩, exceeded⟩
    · exact iff_of_true found budget
    · apply iff_of_false _ exceeded
      rintro ⟨system, success⟩
      rw [refused] at success
      cases success
  · intro system success
    have systemOf := sound.systemOf_recoverySystem success
    rw [systemOf.length_eq, systemOf.lost_eq]
    exact ⟨rfl, rfl⟩
  · intro exceeded
    rcases outcome with ⟨_, budget⟩ | ⟨refused, _⟩
    · exact absurd budget exceeded
    · exact refused
  · intro distinct inside
    rw [sound.withinBudget_iff, ← sound.supplied_iff distinct inside]
    exact and_iff_right (repeatedEntries_eq_zero_iff.mpr fun _ _ => distinct.filter _)

/-- A global parity may be named twice, and so may an index beyond the stripe; a data
block may not. -/
theorem recoverySystem_iff_withinBudget_repeated :
    ∃ scheme system, Scheme.flat 4 2 2 = .ok scheme ∧
      scheme.recoverySystem [1, 6, 0, 20, 6, 20] = .ok system ∧
      system.equations.length = 2 ∧ scheme.shape.WithinBudget [1, 6, 0, 20, 6, 20] ∧
      (∃ cause, scheme.recoverySystem [0, 3, 0] = .error (.recovery cause)) ∧
      scheme.shape.checkTolerance [[1, 6, 0]] = .ok () ∧
      scheme.shape.WithinBudget [1, 6, 0] := by
  obtain ⟨scheme, built, width, inside, tolerated, solvable⟩ : ∃ scheme,
      Scheme.flat 4 2 2 = .ok scheme ∧ scheme.shape = ⟨4, 2, 2⟩ ∧
        (∀ block ∈ [1, 6, 0], block < scheme.n) ∧
        scheme.shape.checkTolerance [[1, 6, 0]] = .ok () ∧
        (scheme.recoverySystem [1, 6, 0, 20, 6, 20]).isOk = true :=
    ⟨_, rfl, by decide⟩
  obtain ⟨system, success⟩ := Outcome.exists_of_isOk solvable
  obtain ⟨exact, counted, _⟩ :=
    recoverySystem_iff_withinBudget (.flat built) [1, 6, 0, 20, 6, 20]
  obtain ⟨_, _, refused, _⟩ := recoverySystem_iff_withinBudget (.flat built) [0, 3, 0]
  obtain ⟨_, _, _, tolerance⟩ := recoverySystem_iff_withinBudget (.flat built) [1, 6, 0]
  obtain ⟨lost, balanced⟩ := counted system success
  have twice : ¬scheme.shape.WithinBudget [0, 3, 0] := by
    intro budget
    have once := budget.distinct 0 (by rw [width]; decide)
    revert once
    decide
  have pair : system.equations.length = 2 := by
    rw [balanced, lost, k, width]
    decide
  exact ⟨scheme, system, built, success, pair, exact.mp ⟨system, success⟩, refused twice,
    tolerated, (tolerance (by decide) inside).mpr tolerated⟩

end Scheme

end LocalRepair

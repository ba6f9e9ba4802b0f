import Mathlib
import LocalRepair.Graph.Schedule

/-!
# The order in which a queue empties

While the queue runs, the counter of a position says how many of its needs have not left
the queue.  So a position that leaves releases those that needed it and have no other need
left, and the positions that left the queue or wait in it are exactly those whose needs have
left it.  At the end nothing waits, so the order holds the positions whose needs it holds:
every position that does not wait for itself.
-/

namespace LocalRepair

theorem getD_set_sub_one (counters : List Nat) (counted position : Nat) :
    (counters.set counted (counters.getD counted 0 - 1)).getD position 0 =
      if position = counted then counters.getD position 0 - 1 else counters.getD position 0 := by
  simp only [List.getD_eq_getElem?_getD, List.getElem?_set]
  by_cases same : counted = position
  · subst same
    by_cases inside : counted < counters.length
    · simp [inside]
    · simp [inside]
  · simp [same, Ne.symm same]

section

variable {dependents : List Nat}

theorem getD_release (distinct : dependents.Nodup) (counters : List Nat) (position : Nat) :
    (release counters dependents).2.getD position 0 =
      if position ∈ dependents then counters.getD position 0 - 1
      else counters.getD position 0 := by
  induction dependents generalizing counters with
  | nil => rfl
  | cons dependent rest ih =>
      obtain ⟨notLater, restDistinct⟩ := List.nodup_cons.mp distinct
      rw [release, ih restDistinct, getD_set_sub_one]
      by_cases same : position = dependent
      · subst same
        simp [notLater]
      · simp [same]

theorem release_released (distinct : dependents.Nodup) (counters : List Nat) :
    (release counters dependents).1 =
      dependents.filter fun dependent => counters.getD dependent 0 - 1 = 0 := by
  induction dependents generalizing counters with
  | nil => rfl
  | cons dependent rest ih =>
      obtain ⟨notLater, restDistinct⟩ := List.nodup_cons.mp distinct
      -- counting down for the first does not touch the counters of the others
      have others : rest.filter (fun other =>
          (counters.set dependent (counters.getD dependent 0 - 1)).getD other 0 - 1 = 0) =
            rest.filter fun other => counters.getD other 0 - 1 = 0 := by
        apply List.filter_congr
        intro other member
        have different : other ≠ dependent := fun same => notLater (same ▸ member)
        rw [getD_set_sub_one, if_neg different]
      rw [release, List.filter_cons]
      simp only [ih restDistinct, others, decide_eq_true_eq]

end

theorem mem_dependentsOf {dependencies : List (List Nat)} {position other : Nat} :
    other ∈ dependentsOf dependencies position ↔
      other < dependencies.length ∧ position ∈ dependencies.getD other [] := by
  rw [dependentsOf, List.mem_filter, List.mem_range, decide_eq_true_eq]

theorem nodup_dependentsOf (dependencies : List (List Nat)) (position : Nat) :
    (dependentsOf dependencies position).Nodup :=
  List.nodup_range.filter _

/-- The positions that depend on `released` and on nothing outside `finished`. -/
def releasedBy (dependencies : List (List Nat)) (finished : List Nat) (released : Nat) :
    List Nat :=
  (dependentsOf dependencies released).filter fun position =>
    (dependencies.getD position []).all (· ∈ finished)

/-- The counter of each position says how many of its needs have not left the queue. -/
def Counts (dependencies : List (List Nat)) (counters finished : List Nat) : Prop :=
  ∀ position, counters.getD position 0 = (dependencies.getD position []).countP (· ∉ finished)

namespace Counts

variable {dependencies : List (List Nat)} {counters finished : List Nat} {position : Nat}

theorem start (dependencies : List (List Nat)) :
    Counts dependencies (dependencies.map List.length) [] := by
  intro position
  simp only [List.getD_eq_getElem?_getD, List.getElem?_map]
  cases dependencies[position]? with
  | none => rfl
  | some needs => simp

variable (distinct : ∀ needs ∈ dependencies, needs.Nodup)
include distinct

theorem countP_append (fresh : position ∉ finished) (other : Nat) :
    (dependencies.getD other []).countP (· ∉ finished ++ [position]) =
      if position ∈ dependencies.getD other [] then
        (dependencies.getD other []).countP (· ∉ finished) - 1
      else (dependencies.getD other []).countP (· ∉ finished) := by
  have needsDistinct : (dependencies.getD other []).Nodup := by
    rw [List.getD_eq_getElem?_getD]
    cases found : dependencies[other]? with
    | none => exact List.nodup_nil
    | some needs => exact distinct needs (List.mem_of_getElem? found)
  generalize dependencies.getD other [] = needs at needsDistinct ⊢
  induction needs with
  | nil => rfl
  | cons first rest ih =>
      obtain ⟨notLater, restDistinct⟩ := List.nodup_cons.mp needsDistinct
      rw [List.countP_cons, List.countP_cons, ih restDistinct]
      by_cases same : position = first
      · subst same
        simp [notLater, fresh]
      · have apart : first ∉ finished ++ [position] ↔ first ∉ finished := by
          simp [Ne.symm same]
        simp only [List.mem_cons, same, false_or, decide_eq_true_eq, apart]
        by_cases later : position ∈ rest
        · have some : 0 < rest.countP (· ∉ finished) :=
            List.countP_pos_iff.mpr ⟨position, later, decide_eq_true fresh⟩
          rw [if_pos later, if_pos later]
          exact (Nat.sub_add_comm some).symm
        · rw [if_neg later, if_neg later]

variable (counts : Counts dependencies counters finished) (fresh : position ∉ finished)
include counts fresh

theorem step :
    Counts dependencies (release counters (dependentsOf dependencies position)).2
      (finished ++ [position]) := by
  intro other
  rw [getD_release (nodup_dependentsOf _ _), countP_append distinct fresh, counts other]
  by_cases inside : other < dependencies.length
  · simp only [mem_dependentsOf, inside, true_and]
  · simp [mem_dependentsOf, inside]

/-- The counters release the positions that needed the one that leaves and have no other need
left. -/
theorem release_eq :
    (release counters (dependentsOf dependencies position)).1 =
      releasedBy dependencies (finished ++ [position]) position := by
  rw [release_released (nodup_dependentsOf _ _), releasedBy]
  apply List.filter_congr
  intro other member
  have needed := (mem_dependentsOf.mp member).2
  have left := countP_append distinct fresh other
  rw [if_pos needed] at left
  rw [counts other, ← left, Bool.eq_iff_iff, decide_eq_true_eq, List.countP_eq_zero]
  simp only [decide_eq_true_eq, not_not, List.all_eq_true]

end Counts

/-- What holds while positions leave the queue one after the other. -/
structure QueueInvariant (dependencies : List (List Nat)) (queue finished : List Nat) :
    Prop where
  nodup : (finished ++ queue).Nodup
  mem_iff : ∀ position, position ∈ finished ++ queue ↔
    position < dependencies.length ∧
      ∀ needed ∈ dependencies.getD position [], needed ∈ finished
  ordered : ∀ before position after, finished = before ++ position :: after →
    ∀ needed ∈ dependencies.getD position [], needed ∈ before

namespace QueueInvariant

variable {dependencies : List (List Nat)}

theorem start : QueueInvariant dependencies
    ((List.range dependencies.length).filter fun position =>
      (dependencies.getD position []).isEmpty) [] where
  nodup := List.Nodup.filter _ List.nodup_range
  mem_iff position := by
    simp [List.mem_filter, List.eq_nil_iff_forall_not_mem]
  ordered before position after impossible := by
    simp at impossible

theorem mem_releasedBy {finished : List Nat} {released position : Nat} :
    position ∈ releasedBy dependencies finished released ↔
      position < dependencies.length ∧ released ∈ dependencies.getD position [] ∧
        ∀ needed ∈ dependencies.getD position [], needed ∈ finished := by
  rw [releasedBy, List.mem_filter, mem_dependentsOf, and_assoc]
  simp

section

variable {position : Nat} {queue finished : List Nat}

theorem not_mem_finished
    (invariant : QueueInvariant dependencies (position :: queue) finished) :
    position ∉ finished := by
  intro member
  exact (List.disjoint_of_nodup_append invariant.nodup) member List.mem_cons_self

theorem head_lt (invariant : QueueInvariant dependencies (position :: queue) finished) :
    position < dependencies.length :=
  ((invariant.mem_iff position).mp (List.mem_append_right _ List.mem_cons_self)).1

theorem step
    (invariant : QueueInvariant dependencies (position :: queue) finished) :
    QueueInvariant dependencies
      (queue ++ releasedBy dependencies (finished ++ [position]) position)
      (finished ++ [position]) := by
  have regroup : finished ++ [position] ++
        (queue ++ releasedBy dependencies (finished ++ [position]) position) =
      finished ++ position :: queue ++
        releasedBy dependencies (finished ++ [position]) position := by
    simp
  have notFinished := invariant.not_mem_finished
  constructor
  · rw [regroup]
    apply List.Nodup.append invariant.nodup ((List.nodup_range.filter _).filter _)
    intro other waiting released
    have needs := ((invariant.mem_iff other).mp waiting).2
    exact notFinished (needs position (mem_releasedBy.mp released).2.1)
  · intro other
    rw [regroup, List.mem_append, invariant.mem_iff, mem_releasedBy]
    constructor
    · rintro (⟨inside, needs⟩ | ⟨inside, _, needs⟩)
      · exact ⟨inside, fun needed member => List.mem_append_left _ (needs needed member)⟩
      · exact ⟨inside, needs⟩
    · rintro ⟨inside, needs⟩
      by_cases waited : position ∈ dependencies.getD other []
      · exact .inr ⟨inside, waited, needs⟩
      · refine .inl ⟨inside, ?_⟩
        intro needed member
        rcases List.mem_append.mp (needs needed member) with earlier | last
        · exact earlier
        · rw [List.mem_singleton] at last
          exact absurd (last ▸ member) waited
  · intro before other after split
    rcases List.eq_nil_or_concat after with rfl | ⟨init, last, rfl⟩
    · obtain ⟨same, rfl⟩ : finished = before ∧ position = other := by
        simpa using List.append_inj' split rfl
      rw [← same]
      exact ((invariant.mem_iff position).mp
        (List.mem_append_right _ List.mem_cons_self)).2
    · have shorter : finished ++ [position] = (before ++ other :: init) ++ [last] := by
        simpa using split
      exact invariant.ordered before other init (List.append_inj' shorter rfl).1

end

theorem length_le {queue finished : List Nat}
    (invariant : QueueInvariant dependencies queue finished) :
    finished.length + queue.length ≤ dependencies.length := by
  have subset : finished ++ queue ⊆ List.range dependencies.length := by
    intro position member
    exact List.mem_range.mpr ((invariant.mem_iff position).mp member).1
  have bound := (List.subperm_of_subset invariant.nodup subset).length_le
  simpa using bound

theorem drain (distinct : ∀ needs ∈ dependencies, needs.Nodup) {fuel : Nat}
    {counters queue finished : List Nat}
    (invariant : QueueInvariant dependencies queue finished)
    (counts : Counts dependencies counters finished)
    (enough : dependencies.length ≤ fuel + finished.length) :
    QueueInvariant dependencies []
      (drainQueue ((List.range dependencies.length).map (dependentsOf dependencies)) fuel
        counters queue finished) := by
  induction fuel generalizing counters queue finished with
  | zero =>
      have bound := invariant.length_le
      have empty : queue = [] := List.eq_nil_of_length_eq_zero (by omega)
      rw [empty] at invariant
      exact invariant
  | succ fuel ih =>
      cases queue with
      | nil => exact invariant
      | cons position queue =>
          have fresh := invariant.not_mem_finished
          have inside := invariant.head_lt
          have dependents : ((List.range dependencies.length).map
              (dependentsOf dependencies)).getD position [] =
                dependentsOf dependencies position := by
            simp [inside]
          rw [drainQueue, dependents]
          dsimp only
          rw [counts.release_eq distinct fresh]
          apply ih invariant.step (counts.step distinct fresh)
          rw [List.length_append, List.length_singleton]
          omega

end QueueInvariant

section

variable {dependencies : List (List Nat)}

theorem queueOrder_invariant (distinct : ∀ needs ∈ dependencies, needs.Nodup) :
    QueueInvariant dependencies [] (queueOrder dependencies) := by
  have counts := Counts.start dependencies
  have ready : (List.range dependencies.length).filter (fun position =>
      (dependencies.map List.length).getD position 0 = 0) =
        (List.range dependencies.length).filter fun position =>
          (dependencies.getD position []).isEmpty := by
    apply List.filter_congr
    intro position _
    rw [counts position, Bool.eq_iff_iff]
    simp
  rw [queueOrder, ready]
  exact QueueInvariant.start.drain distinct counts (Nat.le_add_right _ _)

variable (distinct : ∀ needs ∈ dependencies, needs.Nodup)
include distinct

theorem nodup_queueOrder : (queueOrder dependencies).Nodup := by
  simpa using (queueOrder_invariant distinct).nodup

/-- The order holds exactly the positions whose needs it holds. -/
theorem mem_queueOrder_iff {position : Nat} :
    position ∈ queueOrder dependencies ↔ position < dependencies.length ∧
      ∀ needed ∈ dependencies.getD position [], needed ∈ queueOrder dependencies := by
  simpa using (queueOrder_invariant distinct).mem_iff position

/-- A position that waits, directly or through others, for finitely many steps
only leaves the queue. -/
theorem mem_queueOrder_of_acc
    (inside : ∀ position < dependencies.length,
      ∀ needed ∈ dependencies.getD position [], needed < dependencies.length)
    {position : Nat} (below : position < dependencies.length)
    (accessible : Acc (fun needed position => needed ∈ dependencies.getD position [])
      position) : position ∈ queueOrder dependencies := by
  induction accessible with
  | intro position _ ih =>
      rw [mem_queueOrder_iff distinct]
      refine ⟨below, ?_⟩
      intro needed member
      exact ih needed member (inside position below needed member)

theorem queueOrder_perm (full : (queueOrder dependencies).length = dependencies.length) :
    (queueOrder dependencies).Perm (List.range dependencies.length) := by
  have subset : queueOrder dependencies ⊆ List.range dependencies.length := by
    intro position member
    exact List.mem_range.mpr ((mem_queueOrder_iff distinct).mp member).1
  apply (List.subperm_of_subset (nodup_queueOrder distinct) subset).perm_of_length_le
  rw [List.length_range, full]

theorem length_queueOrder (all : ∀ position < dependencies.length,
    position ∈ queueOrder dependencies) :
    (queueOrder dependencies).length = dependencies.length := by
  have same : (queueOrder dependencies).Perm (List.range dependencies.length) := by
    rw [List.perm_ext_iff_of_nodup (nodup_queueOrder distinct) List.nodup_range]
    intro position
    rw [List.mem_range]
    exact ⟨fun member => ((mem_queueOrder_iff distinct).mp member).1, all position⟩
  rw [same.length_eq, List.length_range]

end

end LocalRepair

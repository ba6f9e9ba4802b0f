import Mathlib
import LocalRepair.Proofs.Equations

/-!
# Which equations a system has

The local groups that a domain meets but whose parities it leaves give their own
equations.  What the groups need beyond those comes from as many of the surviving
global parities.  So a domain is given one equation for each data block that it takes
out, and a superfluous one for each entry of a local group that it repeats.
-/

namespace LocalRepair.Scheme

/-- The number of global parities that a local group needs. -/
def needed (scheme : Scheme) (domain : List Nat) (group : Nat) : Nat :=
  (scheme.groupMembers domain group).length - 1

/-- The number of global parities that local groups need together. -/
def demand (scheme : Scheme) (domain groups : List Nat) : Nat :=
  (groups.map (scheme.needed domain)).sum

/-- A domain meets a local group but leaves its parity. -/
def keepsParity (scheme : Scheme) (domain : List Nat) (group : Nat) : Bool :=
  ¬(scheme.groupMembers domain group = [] ∨
    scheme.shape.localParity group ∈ scheme.groupMembers domain group)

variable {scheme : Scheme} {domain : List Nat}

theorem mem_groupMembers {block group : Nat} :
    block ∈ scheme.groupMembers domain group ↔
      block ∈ domain ∧ scheme.shape.localGroup? block = some group := by
  rw [groupMembers, List.mem_filter, decide_eq_true_eq]

theorem localGroup_of_isData {block : Nat} (isData : block < scheme.k) :
    scheme.shape.localGroup? block = some (block / scheme.shape.b) :=
  if_pos isData

theorem keepsParity_iff {group : Nat} (inside : group < scheme.shape.l) :
    scheme.keepsParity domain group = true ↔
      scheme.groupMembers domain group ≠ [] ∧ scheme.shape.localParity group ∉ domain := by
  rw [keepsParity, decide_eq_true_eq, not_or, mem_groupMembers, Shape.localGroup_localParity inside,
    and_iff_left rfl]

theorem Sound.groupEquations_eq_ok (sound : scheme.Sound) {group : Nat} {globals : List Nat}
    (globalsInside : ∀ parity ∈ globals, parity < scheme.n)
    (enough : scheme.needed domain group ≤ globals.length) :
    scheme.groupEquations scheme.generator domain group globals =
      .ok ((globals.take (scheme.needed domain group)).map (scheme.parityEquation domain) ++
        ([group].filter (scheme.keepsParity domain)).map (scheme.localEquation domain),
        globals.drop (scheme.needed domain group)) := by
  have fromGlobals : (globals.take (scheme.needed domain group)).mapM
      (scheme.globalEquation scheme.generator domain) =
        .ok ((globals.take (scheme.needed domain group)).map (scheme.parityEquation domain)) := by
    apply Outcome.mapM_eq_ok
    intro parity member
    exact sound.globalEquation_eq (globalsInside parity (List.mem_of_mem_take member))
  have fromParity : (if scheme.groupMembers domain group = [] ∨
      scheme.shape.localParity group ∈ scheme.groupMembers domain group then []
        else [scheme.localEquation domain group]) =
      ([group].filter (scheme.keepsParity domain)).map (scheme.localEquation domain) := by
    by_cases without : scheme.groupMembers domain group = [] ∨
        scheme.shape.localParity group ∈ scheme.groupMembers domain group
    · simp [keepsParity, without]
    · simp [keepsParity, without]
  unfold groupEquations
  dsimp only
  rw [← needed, Outcome.ensure_of enough, Outcome.ok_bind, fromGlobals, Outcome.ok_bind,
    fromParity, Outcome.pure_eq_ok]

theorem groupEquations_eq_error {group : Nat} {globals : List Nat}
    (short : globals.length < scheme.needed domain group) :
    scheme.groupEquations scheme.generator domain group globals =
      .error (.recovery (.shortOfGlobals group scheme.shape.g domain)) := by
  have refused : ¬(scheme.groupMembers domain group).length - 1 ≤ globals.length :=
    Nat.not_le.mpr short
  unfold groupEquations
  dsimp only
  rw [Error.ensure, if_neg refused]
  rfl

/-- The equations of groups are those of the global parities that they need, and
those of the local parities that are left to them. -/
theorem Sound.allEquations_eq_ok (sound : scheme.Sound) {groups globals : List Nat}
    (globalsInside : ∀ parity ∈ globals, parity < scheme.n)
    (enough : scheme.demand domain groups ≤ globals.length) :
    ∃ equations, scheme.allEquations scheme.generator domain groups globals = .ok equations ∧
      equations.Perm
        ((globals.take (scheme.demand domain groups)).map (scheme.parityEquation domain) ++
          (groups.filter (scheme.keepsParity domain)).map (scheme.localEquation domain)) := by
  induction groups generalizing globals with
  | nil => exact ⟨[], rfl, by simp [demand]⟩
  | cons group rest ih =>
      have total : scheme.demand domain (group :: rest) =
          scheme.needed domain group + scheme.demand domain rest := by
        rw [demand, List.map_cons, List.sum_cons, demand]
      rw [total] at enough ⊢
      have first := sound.groupEquations_eq_ok globalsInside
        (Nat.le_trans (Nat.le_add_right _ _) enough)
      have left : scheme.demand domain rest ≤
          (globals.drop (scheme.needed domain group)).length := by
        rw [List.length_drop]
        omega
      obtain ⟨equations, restOk, permutation⟩ := ih
        (fun parity member => globalsInside parity (List.mem_of_mem_drop member)) left
      have success : scheme.allEquations scheme.generator domain (group :: rest) globals =
          .ok (((globals.take (scheme.needed domain group)).map (scheme.parityEquation domain) ++
            ([group].filter (scheme.keepsParity domain)).map (scheme.localEquation domain)) ++
              equations) := by
        rw [allEquations, first, Outcome.ok_bind]
        dsimp only
        rw [restOk, Outcome.ok_bind, Outcome.pure_eq_ok]
      have kept : (group :: rest).filter (scheme.keepsParity domain) =
          [group].filter (scheme.keepsParity domain) ++
            rest.filter (scheme.keepsParity domain) :=
        List.filter_append [group] rest
      refine ⟨_, success, ?_⟩
      rw [List.take_add, kept, List.map_append, List.map_append, List.append_assoc,
        List.append_assoc]
      apply List.Perm.append_left
      exact (permutation.append_left _).trans (List.perm_append_comm_assoc _ _ _)

theorem Sound.allEquations_eq_error (sound : scheme.Sound) {groups globals : List Nat}
    (globalsInside : ∀ parity ∈ globals, parity < scheme.n)
    (short : globals.length < scheme.demand domain groups) :
    ∃ group, scheme.allEquations scheme.generator domain groups globals =
      .error (.recovery (.shortOfGlobals group scheme.shape.g domain)) := by
  induction groups generalizing globals with
  | nil => exact absurd short (Nat.not_lt_zero _)
  | cons group rest ih =>
      by_cases enough : scheme.needed domain group ≤ globals.length
      · have first := sound.groupEquations_eq_ok globalsInside enough
        have total : scheme.demand domain (group :: rest) =
            scheme.needed domain group + scheme.demand domain rest := by
          rw [demand, List.map_cons, List.sum_cons, demand]
        have left : (globals.drop (scheme.needed domain group)).length <
            scheme.demand domain rest := by
          rw [List.length_drop]
          omega
        obtain ⟨later, restError⟩ := ih
          (fun parity member => globalsInside parity (List.mem_of_mem_drop member)) left
        refine ⟨later, ?_⟩
        rw [allEquations, first, Outcome.ok_bind]
        dsimp only
        rw [restError, Outcome.error_bind]
      · refine ⟨group, ?_⟩
        rw [allEquations, groupEquations_eq_error (Nat.lt_of_not_le enough),
          Outcome.error_bind]

def lostOfGroup (scheme : Scheme) (domain : List Nat) (group : Nat) : List Nat :=
  (scheme.lostData domain).filter fun block => block / scheme.shape.b = group

theorem mem_lostOfGroup {block group : Nat} :
    block ∈ scheme.lostOfGroup domain group ↔
      block < scheme.k ∧ block ∈ domain ∧ block / scheme.shape.b = group := by
  rw [lostOfGroup, List.mem_filter, mem_lostData, decide_eq_true_eq, and_assoc]

theorem nodup_lostOfGroup {group : Nat} : (scheme.lostOfGroup domain group).Nodup :=
  nodup_lostData.filter _

theorem localGroup_eq_some_iff {block group : Nat} (inside : group < scheme.shape.l) :
    scheme.shape.localGroup? block = some group ↔
      block < scheme.k ∧ block / scheme.shape.b = group ∨
        block = scheme.shape.localParity group := by
  unfold Shape.localGroup? Shape.localParity k
  split_ifs with isData isParity
  · rw [Option.some.injEq]
    constructor
    · exact fun same => .inl ⟨isData, same⟩
    · rintro (⟨_, same⟩ | same)
      · exact same
      · omega
  · rw [Option.some.injEq]
    omega
  · constructor
    · intro impossible
      cases impossible
    · omega

theorem length_dedup_groupMembers {group : Nat} (inside : group < scheme.shape.l) :
    (scheme.groupMembers domain group).dedup.length =
      (scheme.lostOfGroup domain group).length +
        if scheme.shape.localParity group ∈ domain then 1 else 0 := by
  have membersDistinct := List.nodup_dedup (scheme.groupMembers domain group)
  have notData : scheme.shape.localParity group ∉ scheme.lostOfGroup domain group := by
    rw [mem_lostOfGroup, Shape.localParity, k]
    omega
  split_ifs with parityLost
  · have divided : (scheme.groupMembers domain group).dedup.Perm
        (scheme.shape.localParity group :: scheme.lostOfGroup domain group) := by
      rw [List.perm_ext_iff_of_nodup membersDistinct
        (List.nodup_cons.mpr ⟨notData, nodup_lostOfGroup⟩)]
      intro block
      rw [List.mem_dedup, mem_groupMembers, localGroup_eq_some_iff inside, List.mem_cons,
        mem_lostOfGroup]
      constructor
      · rintro ⟨lost, ⟨isData, inGroup⟩ | isParity⟩
        · exact .inr ⟨isData, lost, inGroup⟩
        · exact .inl isParity
      · rintro (rfl | ⟨isData, lost, inGroup⟩)
        · exact ⟨parityLost, .inr rfl⟩
        · exact ⟨lost, .inl ⟨isData, inGroup⟩⟩
    rw [divided.length_eq, List.length_cons]
  · have same : (scheme.groupMembers domain group).dedup.Perm
        (scheme.lostOfGroup domain group) := by
      rw [List.perm_ext_iff_of_nodup membersDistinct nodup_lostOfGroup]
      intro block
      rw [List.mem_dedup, mem_groupMembers, localGroup_eq_some_iff inside, mem_lostOfGroup]
      constructor
      · rintro ⟨lost, ⟨isData, inGroup⟩ | rfl⟩
        · exact ⟨isData, lost, inGroup⟩
        · exact absurd lost parityLost
      · rintro ⟨isData, lost, inGroup⟩
        exact ⟨lost, .inl ⟨isData, inGroup⟩⟩
    rw [same.length_eq, Nat.add_zero]

theorem length_groupMembers (distinct : domain.Nodup) {group : Nat}
    (inside : group < scheme.shape.l) :
    (scheme.groupMembers domain group).length =
      (scheme.lostOfGroup domain group).length +
        if scheme.shape.localParity group ∈ domain then 1 else 0 := by
  have membersDistinct : (scheme.groupMembers domain group).Nodup := distinct.filter _
  rw [← length_dedup_groupMembers inside, membersDistinct.dedup]

/-- The number of entries of a local group that repeat others. -/
def repeats (scheme : Scheme) (domain : List Nat) (group : Nat) : Nat :=
  (scheme.groupMembers domain group).length - (scheme.groupMembers domain group).dedup.length

theorem length_dedup_add_repeats (scheme : Scheme) (domain : List Nat) (group : Nat) :
    (scheme.groupMembers domain group).dedup.length + scheme.repeats domain group =
      (scheme.groupMembers domain group).length :=
  Nat.add_sub_of_le (List.dedup_sublist _).length_le

theorem repeats_eq_zero_iff {group : Nat} :
    scheme.repeats domain group = 0 ↔ (scheme.groupMembers domain group).Nodup := by
  have total := length_dedup_add_repeats scheme domain group
  rw [← List.dedup_eq_self]
  constructor
  · intro none
    rw [none, Nat.add_zero] at total
    exact (List.dedup_sublist _).eq_of_length total
  · intro same
    rw [same] at total
    omega

/-- Each group is given as many equations as it loses data blocks, and one more for
each repeated entry. -/
theorem needed_add_keepsParity {group : Nat} (inside : group < scheme.shape.l) :
    scheme.needed domain group + (if scheme.keepsParity domain group then 1 else 0) =
      (scheme.lostOfGroup domain group).length + scheme.repeats domain group := by
  have count := length_dedup_add_repeats scheme domain group
  rw [length_dedup_groupMembers inside] at count
  by_cases parityLost : scheme.shape.localParity group ∈ domain
  · have off : scheme.keepsParity domain group = false := by
      rw [← Bool.not_eq_true, keepsParity_iff inside]
      exact fun keeps => keeps.2 parityLost
    rw [if_pos parityLost] at count
    rw [off, needed]
    simp only [Bool.false_eq_true, if_false]
    omega
  · rw [if_neg parityLost] at count
    by_cases none : scheme.groupMembers domain group = []
    · have off : scheme.keepsParity domain group = false := by
        rw [← Bool.not_eq_true, keepsParity_iff inside]
        exact fun keeps => keeps.1 none
      rw [none, List.length_nil] at count
      rw [off, needed, none]
      simp only [Bool.false_eq_true, if_false, List.length_nil]
      omega
    · have on := (keepsParity_iff inside).mpr ⟨none, parityLost⟩
      have positive := List.length_pos_iff.mpr none
      rw [on, if_pos rfl, needed]
      omega

theorem Sound.sum_lostOfGroup (sound : scheme.Sound) :
    ((List.range scheme.shape.l).map fun group =>
      (scheme.lostOfGroup domain group).length).sum = (scheme.lostData domain).length :=
  sum_length_filter (scheme.lostData domain)
    fun _ member => sound.shape.group_lt (mem_lostData.mp member).1

theorem demand_add_length_filter (kind : Nat → Bool) (groups : List Nat) :
    scheme.demand domain groups + (groups.filter kind).length =
      (groups.map fun group =>
        scheme.needed domain group + if kind group then 1 else 0).sum := by
  induction groups with
  | nil => rfl
  | cons head tail ih =>
      rw [List.map_cons, List.sum_cons, ← ih, List.filter_cons, demand, List.map_cons,
        List.sum_cons, demand]
      split
      · rw [List.length_cons]
        omega
      · omega

/-- The number of entries of local groups that repeat others. -/
def repeatedEntries (scheme : Scheme) (domain : List Nat) : Nat :=
  ((List.range scheme.shape.l).map (scheme.repeats domain)).sum

/-- A domain is given as many equations as it takes out data blocks, and one more for
each repeated entry. -/
theorem Sound.demand_add_length_keepsParity (sound : scheme.Sound) :
    scheme.demand domain (List.range scheme.shape.l) +
      ((List.range scheme.shape.l).filter (scheme.keepsParity domain)).length =
        (scheme.lostData domain).length + scheme.repeatedEntries domain := by
  rw [demand_add_length_filter, ← sound.sum_lostOfGroup, repeatedEntries, ← List.sum_map_add]
  congr 1
  apply List.map_congr_left
  intro group member
  exact needed_add_keepsParity (List.mem_range.mp member)

theorem repeatedEntries_eq_zero_iff :
    scheme.repeatedEntries domain = 0 ↔
      ∀ group < scheme.shape.l, (scheme.groupMembers domain group).Nodup := by
  simp [repeatedEntries, List.sum_eq_zero_iff, repeats_eq_zero_iff]

theorem Sound.recoverySystem_eq (sound : scheme.Sound) (domain : List Nat) :
    scheme.recoverySystem domain = (do
      let lost := scheme.lostData domain
      let equations ← scheme.allEquations scheme.generator domain
        (List.range scheme.shape.l) (scheme.survivingGlobals domain)
      Error.ensure (equations.length = lost.length)
        (.recovery (.unbalanced domain equations.length lost.length))
      pure ⟨lost, equations⟩) := by
  rw [recoverySystem, sound.generator, Outcome.ok_bind]

end LocalRepair.Scheme

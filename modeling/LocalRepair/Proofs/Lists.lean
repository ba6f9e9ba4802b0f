import Mathlib

/-!
# Lists without repetition, and lists by classes

Erasing duplicates leaves a list without any, ascending lists are equal if they have the
same members, and lists that together repeat nothing if they share a member.  Classes
divide a list, and pairs can be listed by either component.
-/

namespace LocalRepair

theorem nodup_eraseDups {α : Type} [BEq α] [LawfulBEq α] (list : List α) :
    list.eraseDups.Nodup := by
  induction length : list.length using Nat.strong_induction_on generalizing list with
  | _ count ih =>
      cases list with
      | nil => simp
      | cons head tail =>
          have shorter : (tail.filter fun item => !item == head).length < count := by
            have filtered := List.length_filter_le (fun item => !item == head) tail
            rw [List.length_cons] at length
            omega
          rw [List.eraseDups_cons, List.nodup_cons]
          refine ⟨?_, ih _ shorter _ rfl⟩
          intro repeated
          rw [List.mem_eraseDups, List.mem_filter] at repeated
          simp at repeated

theorem eraseDups_eq_self {α : Type} [BEq α] [LawfulBEq α] {list : List α}
    (distinct : list.Nodup) : list.eraseDups = list := by
  induction list with
  | nil => rfl
  | cons head tail ih =>
      rw [List.nodup_cons] at distinct
      have others : (tail.filter fun item => !item == head) = tail := by
        rw [List.filter_eq_self]
        intro item member
        have different : item ≠ head := fun same => distinct.1 (same ▸ member)
        simpa using different
      rw [List.eraseDups_cons, others, ih distinct.2]

theorem eraseDups_append_of_subset {α : Type} [BEq α] [LawfulBEq α] {list rest : List α}
    (subset : rest ⊆ list) : (list ++ rest).eraseDups = list.eraseDups := by
  have none : rest.removeAll list = [] := by
    rw [List.removeAll, List.filter_eq_nil_iff]
    intro item member
    simpa using subset member
  rw [List.eraseDups_append, none, List.eraseDups_nil, List.append_nil]

theorem eq_of_ascending {left right : List Nat} (leftAscends : left.Pairwise (· < ·))
    (rightAscends : right.Pairwise (· < ·))
    (same : ∀ number, number ∈ left ↔ number ∈ right) : left = right := by
  have permutation : left.Perm right := by
    rw [List.perm_ext_iff_of_nodup (leftAscends.imp Nat.ne_of_lt)
      (rightAscends.imp Nat.ne_of_lt)]
    exact same
  exact List.Perm.eq_of_pairwise' leftAscends rightAscends permutation

theorem eq_of_mem_of_nodup_flatten {α : Type} {lists : List (List α)}
    (distinct : lists.flatten.Nodup) {left right : List α} (leftMember : left ∈ lists)
    (rightMember : right ∈ lists) {item : α} (inLeft : item ∈ left) (inRight : item ∈ right) :
    left = right := by
  by_contra different
  have symmetric : Std.Symm (α := List α) List.Disjoint := ⟨fun _ _ apart => apart.symm⟩
  have disjoint : List.Pairwise List.Disjoint lists := (List.nodup_flatten.mp distinct).2
  exact disjoint.forall leftMember rightMember different inLeft inRight

theorem mem_findIdxs_iff {α : Type} {holds : α → Bool} {items : List α} {position : Nat} :
    position ∈ items.findIdxs holds ↔
      ∃ item, items[position]? = some item ∧ holds item = true := by
  rw [List.mem_findIdxs_iff_exists_getElem_pos]
  constructor
  · rintro ⟨inside, found⟩
    exact ⟨_, List.getElem?_eq_getElem inside, found⟩
  · rintro ⟨_, isItem, found⟩
    obtain ⟨inside, rfl⟩ := List.getElem?_eq_some_iff.mp isItem
    exact ⟨inside, found⟩

theorem existsUnique_position_of_nodup_flatten {α : Type} {lists : List (List α)}
    (distinct : lists.flatten.Nodup) {item : α} (member : item ∈ lists.flatten) :
    ∃! position : Nat, ∃ list, lists[position]? = some list ∧ item ∈ list := by
  have apart := List.pairwise_iff_getElem.mp (List.nodup_flatten.mp distinct).2
  obtain ⟨list, isList, inList⟩ := List.mem_flatten.mp member
  obtain ⟨position, inside, rfl⟩ := List.mem_iff_getElem.mp isList
  refine ⟨position, ⟨_, List.getElem?_eq_getElem inside, inList⟩, ?_⟩
  rintro other ⟨_, found, inOther⟩
  obtain ⟨otherInside, rfl⟩ := List.getElem?_eq_some_iff.mp found
  by_contra different
  rcases Nat.lt_or_gt_of_ne different with before | after
  · exact apart other position otherInside inside before inOther inList
  · exact apart position other inside otherInside after inList inOther

theorem exists_map_eq {α β : Type} [DecidableEq α] [Inhabited β] {keys : List α}
    (distinct : keys.Nodup) {values : List β} (count : values.length = keys.length) :
    ∃ value : α → β, keys.map value = values := by
  refine ⟨fun key => values.getD (keys.idxOf key) default, List.ext_getElem ?_ ?_⟩
  · simp [count]
  · intro position _ inside
    simp [List.Nodup.idxOf_getElem distinct, inside]

theorem flatMap_map_perm {α β γ : Type} (left : List α) (right : List β) (pair : α → β → γ) :
    (left.flatMap fun first => right.map (pair first)).Perm
      (right.flatMap fun second => left.map fun first => pair first second) := by
  rw [← Multiset.coe_eq_coe, ← Multiset.coe_bind, ← Multiset.coe_bind]
  exact Multiset.bind_map_comm (left : Multiset α) (right : Multiset β)

theorem sum_length_filter {α : Type} {classOf : α → Nat} {count : Nat} (items : List α)
    (inside : ∀ item ∈ items, classOf item < count) :
    ((List.range count).map fun index =>
      (items.filter fun item => classOf item = index).length).sum = items.length := by
  induction items with
  | nil => simp
  | cons head tail ih =>
      have tailSum := ih fun item member => inside item (List.mem_cons_of_mem head member)
      have one : ((List.range count).map fun index =>
          if classOf head = index then 1 else 0).sum = 1 := by
        rw [← List.sum_toFinset _ List.nodup_range, Finset.sum_eq_single (classOf head)]
        · exact if_pos rfl
        · intro index _ different
          exact if_neg different.symm
        · intro absent
          exact absurd (List.mem_toFinset.mpr (List.mem_range.mpr
            (inside head List.mem_cons_self))) absent
      have step : ∀ index, ((head :: tail).filter fun item => classOf item = index).length =
          (if classOf head = index then 1 else 0) +
            (tail.filter fun item => classOf item = index).length := by
        intro index
        by_cases same : classOf head = index
        · simp [same, Nat.add_comm]
        · simp [same]
      simp only [step]
      rw [List.sum_map_add, one, tailSum, List.length_cons, Nat.add_comm]

end LocalRepair

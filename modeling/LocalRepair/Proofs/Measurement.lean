import Mathlib
import LocalRepair.Proofs.Encoding
import LocalRepair.Proofs.TouchedDomains

/-!
# Measurements

A measurement plans for every data block on its own, so it succeeds if each plan does, and
what it counts is the sum over the data blocks.
-/

namespace LocalRepair

theorem total_eq_sum {α β : Type} {quantity : β → Nat} {expected : α → Nat} {items : List α}
    {values : List β}
    (each : List.Forall₂ (fun item value => quantity value = expected item) items values) :
    total quantity values = (items.map expected).sum := by
  induction each with
  | nil => rfl
  | cons same _ ih => simp [total, same, ih]

theorem total_eq_sum_map {α : Type} (quantity : α → Nat) (items : List α) :
    total quantity items = (items.map quantity).sum :=
  total_eq_sum (List.forall₂_same.mpr fun _ _ => rfl)

theorem total_eq_mul {α : Type} {quantity : α → Nat} {items : List α} {amount : Nat}
    (each : ∀ item ∈ items, quantity item = amount) :
    total quantity items = amount * items.length := by
  rw [total_eq_sum_map, List.map_congr_left each, List.map_const', List.sum_replicate,
    smul_eq_mul, Nat.mul_comm]

namespace Scheme

variable {scheme : Scheme} {block position : Nat}

theorem mem_measuredAvailable {other : Nat}
    (available : other ∈ scheme.measuredAvailable block position) :
    other < scheme.n ∧ (scheme.approach = .maintenance →
      other ∉ scheme.domains.getD position []) := by
  simp only [measuredAvailable, List.mem_filter, List.mem_range, decide_eq_true_eq] at available
  refine ⟨available.1, ?_⟩
  intro maintains
  simpa [maintains] using available.2

/-- Under maintenance the measurement takes the domain of each data block offline. -/
theorem Sound.exists_measuredDomain (sound : scheme.Sound)
    (maintains : scheme.approach = .maintenance) (isData : block < scheme.k) :
    ∃ home, ∃ domain ∈ scheme.domains, block ∈ domain ∧
      domainPosition? scheme.domains block = some home ∧
      (∀ other ∈ scheme.measuredAvailable block home, other < scheme.n) ∧
      ∀ other ∈ domain, other ≠ block → other ∉ scheme.measuredAvailable block home := by
  obtain ⟨home, placed⟩ := sound.exists_position (isData.trans sound.k_lt_n)
  obtain ⟨domain, found, member⟩ :=
    (domainPosition?_eq_some_iff sound.disjoint_domains).mp placed
  have isDomain : scheme.domains.getD home [] = domain := by
    rw [List.getD_eq_getElem?_getD, found, Option.getD_some]
  refine ⟨home, domain, List.mem_of_getElem? found, member, placed,
    fun other available => (mem_measuredAvailable available).1, ?_⟩
  intro other inDomain _ available
  have away := (mem_measuredAvailable available).2 maintains
  rw [isDomain] at away
  exact away inDomain

/-- A measurement succeeds if every data block is planned for, and what is counted of the plans
is the sum over the blocks. -/
theorem exists_measuredPlans {α : Type} (view : Nat → DecodePlan → α) {quantity : α → Nat}
    {expected : Nat → Nat}
    (each : ∀ block < scheme.k, ∃ position plan,
      domainPosition? scheme.domains block = some position ∧
      scheme.planDecode (scheme.measuredAvailable block position) [block] = .ok plan ∧
      quantity (view position plan) = expected block) :
    ∃ plans, scheme.measuredPlans = .ok plans ∧ plans.length = scheme.k ∧
      total quantity (plans.map fun (position, plan) => view position plan) =
        ((List.range scheme.k).map expected).sum := by
  have measured : ∀ block ∈ List.range scheme.k, ∃ result,
      scheme.measuredPlan block = .ok result ∧
        quantity (view result.1 result.2) = expected block := by
    intro block member
    obtain ⟨position, plan, placed, success, count⟩ := each block (List.mem_range.mp member)
    refine ⟨(position, plan), ?_, count⟩
    rw [measuredPlan, placed]
    simp [success]
  obtain ⟨plans, success, counts⟩ := Outcome.exists_mapM_eq_ok measured
  refine ⟨plans, success, ?_, total_eq_sum (List.forall₂_map_right_iff.mpr counts)⟩
  rw [← counts.length_eq, List.length_range]

theorem averageCost_eq_ok {plans : List (Nat × DecodePlan)}
    (measured : scheme.measuredPlans = .ok plans) :
    scheme.averageCost = .ok (scheme.averageOf plans) := by
  rw [averageCost, measured]
  rfl

end Scheme

end LocalRepair

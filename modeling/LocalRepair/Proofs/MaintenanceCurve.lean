import Mathlib
import LocalRepair.Proofs.CombinedTransfers

/-!
# The trade-off curve for maintenance

The closed form of the curve is the mean, over the data blocks, of the combined blocks that the
domains send while that of the block is offline.  The plans of most tunable schemes read more
blocks than that, and those of some read fewer: the difference is a polynomial in the granularity
and the shape, and the two measures agree exactly where it is zero.
-/

namespace LocalRepair

namespace Shape

variable {shape : Shape} {eta : Nat}

/-- The closed form of the transfers for maintenance, times the data blocks of a local group. -/
def closedTransfers (shape : Shape) (eta : Nat) : ℤ :=
  let l : ℤ := shape.l
  let g : ℤ := shape.g
  let b : ℤ := shape.b
  let rest : ℤ := (shape.b % (shape.g + 1) : Nat)
  if eta = maxEta shape.b shape.g ∧ shape.b % (shape.g + 1) ≠ 0 then
    (eta - 1) * (g + 1) * (eta * l * g + eta - 1) + rest * (eta * l) * rest
  else
    (l - g - 1) * (g + 1) * g * eta ^ 2 + (g ^ 2 * eta + b) * b

/-- What is read beyond the closed form, times the data blocks of a local group. -/
def omittedReads (shape : Shape) (eta : Nat) : ℤ :=
  let l : ℤ := shape.l
  let g : ℤ := shape.g
  let b : ℤ := shape.b
  let rest : ℤ := (shape.b % (shape.g + 1) : Nat)
  if eta = maxEta shape.b shape.g ∧ shape.b % (shape.g + 1) ≠ 0 then
    (eta - 1) * ((g + 1) * ((l - 1) * (eta - 1) + l * (2 * rest - g)) - l * rest ^ 2)
  else
    eta * ((l - g - 1) * (g + 1) * (b - g * eta) + g * b)

theorem maintenanceTransfers_ofEta (positive : 0 < shape.b) :
    (CurvePoint.ofEta (Nat.cast : Nat → ℚ) shape eta).maintenanceTransfers * shape.b =
      shape.closedTransfers eta := by
  have nonzero : (shape.b : ℚ) ≠ 0 := Nat.cast_ne_zero.mpr (Nat.ne_of_gt positive)
  rw [CurvePoint.ofEta, closedTransfers]
  split_ifs
  · simp only [CurvePoint.partialCluster]
    generalize shape.b % (shape.g + 1) = rest
    push_cast
    field_simp
  · simp only [CurvePoint.regular]
    push_cast
    field_simp
    ring

theorem eq_add_mod_of_partial (useful : eta ≤ maxEta shape.b shape.g)
    (room : shape.b < eta * (shape.g + 1)) :
    (shape.b : ℤ) = (eta - 1) * (shape.g + 1) + (shape.b % (shape.g + 1) : Nat) := by
  obtain ⟨others, rfl⟩ : ∃ others, eta = others + 1 :=
    Nat.exists_eq_add_one.mpr (Nat.pos_of_lt_mul_right room)
  have begun := lt_maxEta_iff.mp (Nat.lt_of_succ_le useful)
  have full : shape.b / (shape.g + 1) = others :=
    Nat.div_eq_of_lt_le (Nat.le_of_lt begun) room
  have division := Nat.div_add_mod' shape.b (shape.g + 1)
  rw [full] at division
  rw [Nat.cast_add_one, add_sub_cancel_right]
  exact_mod_cast division.symm

end Shape

namespace Scheme

variable {scheme : Scheme} {eta : Nat}

theorem Sound.groups_cast (sound : scheme.Sound) :
    (scheme.k : ℤ) = scheme.shape.l * scheme.shape.b := by
  rw [k, ← sound.shape.groups_mul, Nat.cast_mul]

theorem Sound.cast_sum_map_mod_lt (sound : scheme.Sound) {threshold : Nat}
    (inside : threshold ≤ scheme.shape.b) (first second : Nat) :
    (((List.range scheme.k).map fun failed =>
      if failed % scheme.shape.b < threshold then first else second).sum : ℤ) =
        scheme.shape.l * (threshold * first + (scheme.shape.b - threshold) * second) := by
  have fits : scheme.shape.l * threshold ≤ scheme.k := by
    rw [k, ← sound.shape.groups_mul]
    exact Nat.mul_le_mul_left _ inside
  rw [sound.sum_map_mod_lt, Nat.min_eq_right inside, Nat.cast_add, Nat.cast_mul, Nat.cast_mul,
    Nat.cast_mul _ second, Nat.cast_sub fits, sound.groups_cast, Nat.cast_mul]
  ring

theorem Sound.maintenanceTotal_of_covered (sound : scheme.Sound)
    (covered : scheme.shape.b ≤ eta * (scheme.shape.g + 1)) :
    scheme.maintenanceTotal eta = scheme.k * scheme.k := by
  have all : scheme.shape.l * scheme.shape.b = scheme.k := sound.shape.groups_mul
  simp [maintenanceTotal, Nat.min_eq_left covered, all]

theorem Sound.maintenanceTotal_of_uncovered (sound : scheme.Sound)
    (uncovered : eta * (scheme.shape.g + 1) ≤ scheme.shape.b) :
    (scheme.maintenanceTotal eta : ℤ) =
      scheme.k * (scheme.shape.b + (scheme.shape.l - 1) * (eta * (scheme.shape.g + 1))) := by
  have all : (scheme.maintenanceTotal eta : ℤ) = _ :=
    (congrArg Nat.cast (sound.sum_map_mod_lt _ _ _)).symm.trans
      (sound.cast_sum_map_mod_lt uncovered scheme.k scheme.shape.b)
  rw [all, sound.groups_cast]
  push_cast
  ring

/-- What maintenance transfers for all data blocks is the closed form. -/
theorem Sound.sum_maintenanceTransfers (sound : scheme.Sound)
    (useful : eta ≤ maxEta scheme.shape.b scheme.shape.g) :
    (((List.range scheme.k).map fun failed =>
      scheme.shape.maintenanceTransfers eta (failed % scheme.shape.b)).sum : ℤ) *
        scheme.shape.b = scheme.k * scheme.shape.closedTransfers eta := by
  simp only [Shape.maintenanceTransfers, Shape.closedTransfers, partial_iff_lt_mul useful,
    Shape.paritySpread, Shape.repairSpread_eq useful]
  by_cases room : scheme.shape.b < eta * (scheme.shape.g + 1)
  · have clustered : 1 ≤ eta := Nat.pos_of_lt_mul_right room
    have width := Shape.eq_add_mod_of_partial useful room
    have inside : (eta - 1) * (scheme.shape.g + 1) ≤ scheme.shape.b := by
      zify [clustered]
      linarith [Int.natCast_nonneg (scheme.shape.b % (scheme.shape.g + 1))]
    simp only [if_pos room]
    rw [sound.cast_sum_map_mod_lt inside, Nat.sub_eq_zero_of_le (Nat.le_of_lt room),
      sound.groups_cast]
    generalize scheme.shape.b % (scheme.shape.g + 1) = rest at width ⊢
    push_cast [clustered]
    linear_combination
      (scheme.shape.l : ℤ) * scheme.shape.b * (scheme.shape.l * eta * rest) * width
  · have inside := Nat.not_lt.mp room
    have covered : scheme.shape.g * eta ≤ scheme.shape.b := by
      rw [Nat.mul_add_one, Nat.mul_comm] at inside
      omega
    simp only [if_neg room]
    rw [sound.cast_sum_map_mod_lt inside, sound.groups_cast]
    push_cast [inside, covered]
    ring

/-- What maintenance reads for all data blocks, split by the closed form. -/
theorem Sound.maintenanceTotal_mul (sound : scheme.Sound)
    (useful : eta ≤ maxEta scheme.shape.b scheme.shape.g) :
    (scheme.maintenanceTotal eta : ℤ) * scheme.shape.b =
      scheme.k * (scheme.shape.closedTransfers eta + scheme.shape.omittedReads eta) := by
  simp only [Shape.closedTransfers, Shape.omittedReads, partial_iff_lt_mul useful]
  split_ifs with room
  · -- The closed form and the rest of it add up to `l` times the square of the right side.
    have width := Shape.eq_add_mod_of_partial useful room
    rw [sound.maintenanceTotal_of_covered (Nat.le_of_lt room), Nat.cast_mul, sound.groups_cast]
    linear_combination (scheme.shape.l : ℤ) ^ 2 * scheme.shape.b * (scheme.shape.b +
      ((eta - 1) * (scheme.shape.g + 1) + (scheme.shape.b % (scheme.shape.g + 1) : Nat))) * width
  · rw [sound.maintenanceTotal_of_uncovered (Nat.not_lt.mp room)]
    ring

theorem Sound.mean_transfers (sound : scheme.Sound) {transferred : Nat}
    (closed : (transferred : ℤ) * scheme.shape.b =
      scheme.k * scheme.shape.closedTransfers eta) :
    (CurvePoint.ofEta (Nat.cast : Nat → ℚ) scheme.shape eta).maintenanceTransfers * scheme.k =
      transferred := by
  have point := @Shape.maintenanceTransfers_ofEta _ eta sound.shape.b_pos
  have rational : (transferred : ℚ) * scheme.shape.b =
      scheme.k * scheme.shape.closedTransfers eta := by exact_mod_cast closed
  have groupWidth : (scheme.shape.b : ℚ) ≠ 0 :=
    Nat.cast_ne_zero.mpr (Nat.ne_of_gt sound.shape.b_pos)
  apply mul_right_cancel₀ groupWidth
  rw [rational, ← point]
  ring

/-- In a tunable scheme under maintenance the closed form of the trade-off curve is the mean of
the combined blocks that are transferred between domains, over the plans that the measurement
makes for the data blocks.  The blocks that these plans read are counted otherwise: where the
symbols can be numbered in 64 bits, the measurement and the closed form differ by the reads beyond
it, so the two agree exactly if there are none. -/
theorem maintenanceReads_measured (constructed : scheme.Constructed)
    (tunable : scheme.layout = .tradeoff eta .maintenance) :
    (∃ plans transferred, scheme.measuredPlans = .ok plans ∧ plans.length = scheme.k ∧
      total scheme.transfers (plans.map fun (_, plan) => plan.graph) = transferred ∧
      (transferred : ℤ) * scheme.shape.b = scheme.k * scheme.shape.closedTransfers eta ∧
      (CurvePoint.ofEta (Nat.cast : Nat → ℚ) scheme.shape eta).maintenanceTransfers * scheme.k =
        transferred ∧
      (scheme.Addressable → ∃ measured,
        total DecodeReads.blocks
          (plans.map fun (position, plan) => scheme.planReads position plan) = measured ∧
        (measured : ℤ) * scheme.shape.b =
          scheme.k * (scheme.shape.closedTransfers eta + scheme.shape.omittedReads eta) ∧
        ((measured : ℤ) * scheme.shape.b = scheme.k * scheme.shape.closedTransfers eta ↔
          scheme.shape.omittedReads eta = 0))) ∧
    (∃ points, scheme.shape.tradeoffCurve = .ok points ∧
      points[eta]? = some (CurvePoint.ofEta Float.ofNat scheme.shape eta)) ∧
    (CurvePoint.ofEta (Nat.cast : Nat → ℚ) scheme.shape eta).maintenanceTransfers *
      scheme.shape.b = scheme.shape.closedTransfers eta := by
  have sound := constructed.sound
  have useful := (sound.tunable_checked tunable).2
  refine ⟨?_, ?_, Shape.maintenanceTransfers_ofEta sound.shape.b_pos⟩
  · obtain ⟨plans, measured, count, transfers⟩ := sound.exists_transferPlans tunable
    have closed := sound.sum_maintenanceTransfers useful
    refine ⟨plans, _, measured, count, transfers, closed, sound.mean_transfers closed, ?_⟩
    intro addressable
    obtain ⟨_, again, _, reads⟩ := sound.exists_maintenancePlans addressable tunable
    rw [measured, Except.ok.injEq] at again
    subst again
    have split := sound.maintenanceTotal_mul useful
    have nonzero : (scheme.k : ℤ) ≠ 0 := by
      simpa [k] using sound.shape.data
    refine ⟨_, reads, split, ?_⟩
    rw [split, mul_right_inj' nonzero, add_eq_left]
  · refine ⟨_, sound.shape.tradeoffCurve_eq, ?_⟩
    rw [List.getElem?_map, List.getElem?_range (by omega), Option.map_some]

/-- Two groups of six blocks with a cluster of three in each: 108 combined blocks for the twelve
data blocks, nine for each, and as many are read. -/
theorem maintenanceReads_measured_cluster :
    ∃ scheme plans, Scheme.tradeoff 12 2 2 1 .maintenance = .ok scheme ∧
      scheme.measuredPlans = .ok plans ∧ plans.length = 12 ∧
      total scheme.transfers (plans.map fun (_, plan) => plan.graph) = 108 ∧
      total DecodeReads.blocks
        (plans.map fun (position, plan) => scheme.planReads position plan) = 108 ∧
      (CurvePoint.ofEta (Nat.cast : Nat → ℚ) scheme.shape 1).maintenanceTransfers = 9 := by
  obtain ⟨scheme, built, addressable, tunable, width, groupWidth, closed, omitted⟩ : ∃ scheme,
      Scheme.tradeoff 12 2 2 1 .maintenance = .ok scheme ∧ scheme.Addressable ∧
        scheme.layout = .tradeoff 1 .maintenance ∧ scheme.k = 12 ∧ scheme.shape.b = 6 ∧
        scheme.shape.closedTransfers 1 = 54 ∧ scheme.shape.omittedReads 1 = 0 :=
    ⟨_, rfl, by decide⟩
  obtain ⟨⟨plans, transferred, success, count, transfers, closedSum, mean, reads⟩, _, _⟩ :=
    maintenanceReads_measured (.tradeoff built) tunable
  obtain ⟨measured, sum, _, agree⟩ := reads addressable
  have same := agree.mpr omitted
  rw [width, groupWidth, closed] at same closedSum
  rw [width] at count mean
  have all : transferred = 108 := by omega
  rw [all] at transfers mean
  refine ⟨scheme, plans, built, success, count, transfers, sum.trans (by omega), ?_⟩
  push_cast at mean
  linarith

/-- Two groups of two blocks, each group a cluster: both of a cluster's blocks take four
reads, of which the other cluster's are combined, so the closed form gives three. -/
theorem maintenanceReads_underestimated :
    ∃ scheme plans, Scheme.tradeoff 4 2 1 1 .maintenance = .ok scheme ∧
      scheme.measuredPlans = .ok plans ∧ plans.length = 4 ∧
      total DecodeReads.blocks
        (plans.map fun (position, plan) => scheme.planReads position plan) = 16 ∧
      (CurvePoint.ofEta (Nat.cast : Nat → ℚ) scheme.shape 1).maintenanceTransfers = 3 ∧
      (16 : ℤ) * scheme.shape.b ≠ scheme.k * scheme.shape.closedTransfers 1 := by
  obtain ⟨scheme, built, addressable, tunable, width, groupWidth, closed, reads⟩ : ∃ scheme,
      Scheme.tradeoff 4 2 1 1 .maintenance = .ok scheme ∧ scheme.Addressable ∧
        scheme.layout = .tradeoff 1 .maintenance ∧ scheme.k = 4 ∧ scheme.shape.b = 2 ∧
        scheme.shape.closedTransfers 1 = 6 ∧ scheme.maintenanceTotal 1 = 16 :=
    ⟨_, rfl, by decide⟩
  have sound := (Constructed.tradeoff built).sound
  obtain ⟨plans, measured, count, sum⟩ := sound.exists_maintenancePlans addressable tunable
  have point := @Shape.maintenanceTransfers_ofEta _ 1 sound.shape.b_pos
  rw [groupWidth, closed] at point
  rw [width] at count
  refine ⟨scheme, plans, built, measured, count, sum.trans reads, ?_, ?_⟩
  · push_cast at point
    linarith
  · rw [groupWidth, width, closed]
    decide

end Scheme

end LocalRepair

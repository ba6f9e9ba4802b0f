import Mathlib

/-!
# Sums of simple fractions

A sum of fractions with numbers as numerators and different linear denominators
is zero at few points only.  Over a common denominator its numerator is a
polynomial of degree less than the number of fractions, or less by one more if
the numbers add up to zero, and that polynomial takes at each pole a multiple of
the number that belongs to it.
-/

namespace LocalRepair.Cauchy

open Polynomial

section

variable {F ι : Type} [Field F] [DecidableEq ι]

/-- The numerator of a sum of simple fractions over their common denominator. -/
noncomputable def numerator (columns : Finset ι) (pole weight : ι → F) : F[X] :=
  ∑ column ∈ columns, C (weight column) * Lagrange.nodal (columns.erase column) pole

variable {columns : Finset ι} {pole weight : ι → F}

theorem eval_numerator {point : F} (away : ∀ column ∈ columns, point ≠ pole column) :
    (numerator columns pole weight).eval point =
      (Lagrange.nodal columns pole).eval point *
        ∑ column ∈ columns, weight column / (point - pole column) := by
  rw [numerator, eval_finsetSum, Finset.mul_sum]
  apply Finset.sum_congr rfl
  intro column member
  have nonzero : point - pole column ≠ 0 := sub_ne_zero.mpr (away column member)
  have split : (Lagrange.nodal columns pole).eval point =
      (point - pole column) * (Lagrange.nodal (columns.erase column) pole).eval point := by
    rw [Lagrange.eval_nodal, Lagrange.eval_nodal]
    exact (Finset.mul_prod_erase columns (fun other => point - pole other) member).symm
  rw [split, eval_mul, eval_C]
  field_simp

theorem eval_numerator_pole {column : ι} (member : column ∈ columns) :
    (numerator columns pole weight).eval (pole column) =
      weight column * (Lagrange.nodal (columns.erase column) pole).eval (pole column) := by
  rw [numerator, eval_finsetSum, Finset.sum_eq_single column]
  · rw [eval_mul, eval_C]
  · intro other _ different
    have erased : column ∈ columns.erase other :=
      Finset.mem_erase.mpr ⟨Ne.symm different, member⟩
    rw [eval_mul, Lagrange.eval_nodal_at_node erased, mul_zero]
  · intro absent
    exact absurd member absent

theorem degree_numerator_lt :
    (numerator columns pole weight).degree < columns.card := by
  rw [← mem_degreeLT]
  apply Submodule.sum_mem
  intro column member
  rw [mem_degreeLT]
  calc
    (C (weight column) * Lagrange.nodal (columns.erase column) pole).degree ≤
        (Lagrange.nodal (columns.erase column) pole).degree := by
      rw [← smul_eq_C_mul]
      exact degree_smul_le _ _
    _ = ((columns.erase column).card : WithBot ℕ) := Lagrange.degree_nodal
    _ < columns.card := by exact_mod_cast Finset.card_erase_lt_of_mem member

theorem coeff_numerator :
    (numerator columns pole weight).coeff (columns.card - 1) =
      ∑ column ∈ columns, weight column := by
  rw [numerator, finsetSum_coeff]
  apply Finset.sum_congr rfl
  intro column member
  have degree : columns.card - 1 =
      (Lagrange.nodal (columns.erase column) pole).natDegree := by
    rw [Lagrange.natDegree_nodal, Finset.card_erase_of_mem member]
  rw [coeff_C_mul, degree, Lagrange.nodal_monic.coeff_natDegree, mul_one]

theorem weights_eq_zero (distinct : Set.InjOn pole columns)
    (zero : numerator columns pole weight = 0) :
    ∀ column ∈ columns, weight column = 0 := by
  intro column member
  have value : (numerator columns pole weight).eval (pole column) =
      weight column * (Lagrange.nodal (columns.erase column) pole).eval (pole column) :=
    eval_numerator_pole member
  rw [zero, eval_zero] at value
  have nonzero : (Lagrange.nodal (columns.erase column) pole).eval (pole column) ≠ 0 := by
    rw [Lagrange.eval_nodal, Finset.prod_ne_zero_iff]
    intro other otherMember equal
    obtain ⟨different, inside⟩ := Finset.mem_erase.mp otherMember
    exact different (distinct inside member (sub_eq_zero.mp equal).symm)
  exact (mul_eq_zero.mp value.symm).resolve_right nonzero

variable {points : Finset F}

private theorem numerator_eq_zero
    (degree : (numerator columns pole weight).degree < points.card)
    (away : ∀ point ∈ points, ∀ column ∈ columns, point ≠ pole column)
    (vanish : ∀ point ∈ points,
      ∑ column ∈ columns, weight column / (point - pole column) = 0) :
    numerator columns pole weight = 0 := by
  apply eq_zero_of_degree_lt_of_eval_finset_eq_zero points degree
  intro point member
  rw [eval_numerator (away point member), vanish point member, mul_zero]

/-- Simple fractions with different poles are independent on as many points. -/
theorem weights_eq_zero_of_vanish (distinct : Set.InjOn pole columns)
    (enough : columns.card ≤ points.card)
    (away : ∀ point ∈ points, ∀ column ∈ columns, point ≠ pole column)
    (vanish : ∀ point ∈ points,
      ∑ column ∈ columns, weight column / (point - pole column) = 0) :
    ∀ column ∈ columns, weight column = 0 := by
  apply weights_eq_zero distinct
  apply numerator_eq_zero _ away vanish
  exact lt_of_lt_of_le degree_numerator_lt (by exact_mod_cast enough)

theorem weights_eq_zero_of_vanish_of_sum (distinct : Set.InjOn pole columns)
    (enough : columns.card ≤ points.card + 1)
    (away : ∀ point ∈ points, ∀ column ∈ columns, point ≠ pole column)
    (vanish : ∀ point ∈ points,
      ∑ column ∈ columns, weight column / (point - pole column) = 0)
    (total : ∑ column ∈ columns, weight column = 0) :
    ∀ column ∈ columns, weight column = 0 := by
  apply weights_eq_zero distinct
  apply numerator_eq_zero _ away vanish
  rw [degree_lt_iff_coeff_zero]
  intro position past
  by_cases top : position = columns.card - 1
  · rw [top, coeff_numerator, total]
  · apply coeff_eq_zero_of_degree_lt
    apply lt_of_lt_of_le degree_numerator_lt
    have above : columns.card ≤ position := by omega
    exact_mod_cast above

end

end LocalRepair.Cauchy

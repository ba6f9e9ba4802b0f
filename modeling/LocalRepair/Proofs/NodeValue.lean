import Mathlib
import LocalRepair.Graph.Batch
import LocalRepair.Proofs.Field
import LocalRepair.Proofs.GraphState
import LocalRepair.Proofs.Lists
import LocalRepair.Proofs.MatrixRows

/-!
# Values of nodes

A node takes its sources to a sum.  A batch collects the coefficients of a node
by source, which gives the same sum over any list that holds its sources once.
-/

namespace LocalRepair

/-- The sum of the values at indices, each times its coefficient. -/
def weightedSum (indices : List Nat) (coefficients : List GF256) (value : Nat → GF256) :
    GF256 :=
  ((indices.zip coefficients).map fun pair => pair.2 * value pair.1).sum

theorem weightedSum_map (indices : List Nat) (coefficient value : Nat → GF256) :
    weightedSum indices (indices.map coefficient) value =
      (indices.map fun index => coefficient index * value index).sum := by
  have both : (indices.map id).zip (indices.map coefficient) =
      indices.map fun index => (index, coefficient index) := List.zip_map'
  rw [List.map_id] at both
  rw [weightedSum, both, List.map_map]
  rfl

theorem weightedSum_append {indices rest : List Nat} {coefficients more : List GF256}
    (arity : indices.length = coefficients.length) (value : Nat → GF256) :
    weightedSum (indices ++ rest) (coefficients ++ more) value =
      weightedSum indices coefficients value + weightedSum rest more value := by
  rw [weightedSum, List.zip_append arity, List.map_append, List.sum_append]
  rfl

theorem weightedSum_congr {indices : List Nat} {coefficients : List GF256}
    {left right : Nat → GF256} (agree : ∀ index ∈ indices, left index = right index) :
    weightedSum indices coefficients left = weightedSum indices coefficients right := by
  unfold weightedSum
  congr 1
  apply List.map_congr_left
  intro pair member
  rw [agree pair.1 (List.of_mem_zip member).1]

theorem weightedSum_eq_sum_range {indices : List Nat} {coefficients : List GF256}
    (arity : indices.length = coefficients.length) (value : Nat → GF256) :
    weightedSum indices coefficients value =
      ∑ position ∈ Finset.range indices.length,
        coefficients.getD position 0 * value (indices.getD position 0) := by
  induction indices generalizing coefficients with
  | nil => simp [weightedSum]
  | cons head tail ih =>
      obtain ⟨first, rest, rfl⟩ := List.exists_cons_of_length_eq_add_one arity.symm
      have restArity : tail.length = rest.length := by simpa using arity
      have restSum := ih restArity
      rw [List.length_cons, Finset.sum_range_succ']
      simp only [List.getD_cons_succ, List.getD_cons_zero, ← restSum]
      rw [weightedSum, List.zip_cons_cons, List.map_cons, List.sum_cons, add_comm]
      rfl

namespace Node

/-- The sum that a node stands for, for given values of its sources. -/
def value (node : Node) (source : Nat → GF256) : GF256 :=
  (node.terms.map fun term => term.coefficient * source term.source).sum

theorem value_congr {node : Node} {left right : Nat → GF256}
    (agree : ∀ source ∈ node.sources, left source = right source) :
    node.value left = node.value right := by
  unfold value
  congr 1
  apply List.map_congr_left
  intro term member
  rw [agree term.source (List.mem_map_of_mem member)]

theorem value_ofLists (target : Nat) (sources : List Nat) (coefficients : List GF256)
    (source : Nat → GF256) :
    (ofLists target sources coefficients).value source =
      weightedSum sources coefficients source := by
  rw [value, ofLists, weightedSum, List.zipWith_eq_zipWith_take_min, List.zip_eq_zipWith,
    List.zipWith_eq_zipWith_take_min (f := Prod.mk), List.map_zipWith, List.map_zipWith]

theorem coefficientOf_eq (node : Node) (source : Nat) :
    node.coefficientOf source =
      (node.terms.map fun term =>
        if term.source = source then term.coefficient else 0).sum := by
  have general : ∀ (terms : List Term) (start : GF256),
      terms.foldl (fun sum term =>
          if term.source = source then sum + term.coefficient else sum) start =
        start + (terms.map fun term =>
          if term.source = source then term.coefficient else 0).sum := by
    intro terms
    induction terms with
    | nil =>
        intro start
        simp
    | cons head tail ih =>
        intro start
        rw [List.foldl_cons, ih, List.map_cons, List.sum_cons]
        split
        · rw [add_assoc]
        · rw [zero_add]
  rw [coefficientOf, general, zero_add]

/-- Collecting the coefficients of a node by source does not change its sum. -/
theorem sum_coefficientOf {node : Node} {children : List Nat} (distinct : children.Nodup)
    (covered : ∀ source ∈ node.sources, source ∈ children) (source : Nat → GF256) :
    (children.map fun child => node.coefficientOf child * source child).sum =
      node.value source := by
  have general : ∀ terms : List Term, (∀ term ∈ terms, term.source ∈ children) →
      (children.map fun child => (terms.map fun term =>
          if term.source = child then term.coefficient else 0).sum * source child).sum =
        (terms.map fun term => term.coefficient * source term.source).sum := by
    intro terms
    induction terms with
    | nil =>
        intro _
        simp
    | cons head tail ih =>
        intro inside
        have headInside := inside head List.mem_cons_self
        have tailSum := ih fun term member => inside term (List.mem_cons_of_mem head member)
        have headSum : (children.map fun child =>
            (if head.source = child then head.coefficient else 0) * source child).sum =
              head.coefficient * source head.source := by
          rw [← List.sum_toFinset _ distinct, Finset.sum_eq_single head.source]
          · rw [if_pos rfl]
          · intro child _ different
            rw [if_neg different.symm, zero_mul]
          · intro absent
            exact absurd (List.mem_toFinset.mpr headInside) absent
        simp only [List.map_cons, List.sum_cons, add_mul]
        rw [List.sum_map_add, headSum, tailSum]
  simp only [coefficientOf_eq]
  apply general
  intro term member
  exact covered term.source (List.mem_map_of_mem member)

end Node

namespace Batch

variable {unit : List Node}

theorem mem_children {source : Nat} :
    source ∈ (ofUnit unit).children ↔ ∃ node ∈ unit, source ∈ node.sources := by
  simp [ofUnit, List.mem_eraseDups]

theorem nodup_children : (ofUnit unit).children.Nodup :=
  nodup_eraseDups _

private theorem length_rows :
    ∀ entries ∈ unit.map fun node => (ofUnit unit).children.map node.coefficientOf,
      entries.length = (ofUnit unit).children.length := by
  intro entries member
  obtain ⟨node, _, rfl⟩ := List.mem_map.mp member
  rw [List.length_map]

theorem coefficients_ofUnit :
    (ofUnit unit).coefficients =
      let rows := unit.map fun node => (ofUnit unit).children.map node.coefficientOf
      ⟨rows.length, (ofUnit unit).children.length, rows.flatten.toArray⟩ := by
  simp [ofUnit]

theorem wellFormed_ofUnit : (ofUnit unit).coefficients.WellFormed := by
  rw [coefficients_ofUnit]
  exact DenseMatrix.wellFormed_flatten length_rows

theorem row_ofUnit {row : Nat} (inside : row < unit.length) :
    (List.range (ofUnit unit).coefficients.cols).map
        ((ofUnit unit).coefficients.get row) =
      (ofUnit unit).children.map unit[row].coefficientOf := by
  rw [coefficients_ofUnit]
  apply List.ext_getElem
  · simp
  · intro col leftInside rightInside
    have colInside : col < (ofUnit unit).children.length := by
      simpa using rightInside
    rw [List.getElem_map, List.getElem_range, DenseMatrix.get_flatten length_rows colInside]
    simp [inside, colInside]

end Batch

end LocalRepair

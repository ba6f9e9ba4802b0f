import Mathlib
import LocalRepair.Proofs.Inversion
import LocalRepair.Proofs.SingleGroup

/-!
# Square parts of the generator

Rows of global parities, gathered at as many columns, form a matrix with an inverse, and
so do one parity less and a row of ones.  Elimination finds the inverse, whatever the
order of rows and columns.
-/

namespace LocalRepair

namespace DenseMatrix

/-- Rows form a matrix, and elimination finds its inverse. -/
def RowsInvert (rows : List (List GF256)) : Prop :=
  ∃ matrix inverse, ofRows? rows = some matrix ∧ matrix.invert = .ok inverse ∧
    matrix.IsInverse inverse

theorem rowsInvert_of_kernel {rows : List (List GF256)} {indices : List Nat}
    (distinct : indices.Nodup) (square : rows.length = indices.length)
    (lengths : ∀ entries ∈ rows, entries.length = indices.length)
    (kernel : ∀ value : Nat → GF256, (∀ entries ∈ rows, weightedSum indices entries value = 0) →
      ∀ index ∈ indices, value index = 0) :
    RowsInvert rows := by
  let matrix : DenseMatrix := ⟨rows.length, indices.length, rows.flatten.toArray⟩
  have isSquare : matrix.Square rows.length :=
    ⟨wellFormed_flatten lengths, rfl, square.symm⟩
  refine ⟨matrix, ?_⟩
  rcases isSquare.invert_cases with ⟨inverse, success, inverseSquare, solves⟩ |
    ⟨_, vector, ⟨position, inside, nonzero⟩, vanish⟩
  · exact ⟨inverse, ofRows?_eq_some square lengths, success,
      isSquare.isInverse_of_solves inverseSquare solves⟩
  · exfalso
    obtain ⟨value, _, reads⟩ := exists_values_of_vector distinct vector
    have zero : ∀ entries ∈ rows, weightedSum indices entries value = 0 := by
      intro entries member
      obtain ⟨row, rowInside, rfl⟩ := List.mem_iff_getElem.mp member
      rw [← rowProduct_flatten lengths value rowInside, ← vanish row rowInside]
      exact rowProduct_congr reads
    apply nonzero
    rw [square] at inside
    rw [← reads position inside, List.getD_eq_getElem _ _ inside]
    exact kernel value zero _ (List.getElem_mem inside)

end DenseMatrix

theorem weightedSum_replicate (indices : List Nat) (value : Nat → GF256) :
    weightedSum indices (List.replicate indices.length 1) value = (indices.map value).sum := by
  rw [← List.map_const', weightedSum_map]
  simp only [one_mul]

namespace Shape

variable {shape : Shape} {generator : DenseMatrix} {parities columns : List Nat}

/-- Distinct global parities and distinct data blocks. -/
structure Selects (shape : Shape) (parities columns : List Nat) : Prop where
  paritiesDistinct : parities.Nodup
  isGlobal : ∀ parity ∈ parities, shape.k + shape.l ≤ parity ∧ parity < shape.n
  columnsDistinct : columns.Nodup
  isData : ∀ column ∈ columns, column < shape.k

/-- The entries at the selected columns, a list for each selected parity. -/
def selectedRows (shape : Shape) (parities columns : List Nat) : List (List GF256) :=
  parities.map fun parity => columns.map (shape.coefficient parity)

theorem length_of_mem_selectedRows :
    ∀ entries ∈ shape.selectedRows parities columns, entries.length = columns.length := by
  intro entries member
  obtain ⟨parity, _, rfl⟩ := List.mem_map.mp member
  exact List.length_map _

theorem vanish_of_selectedRows {data : Nat → GF256}
    (vanish : ∀ entries ∈ shape.selectedRows parities columns,
      weightedSum columns entries data = 0) :
    ∀ parity ∈ parities,
      (columns.map fun column => shape.coefficient parity column * data column).sum = 0 := by
  intro parity member
  rw [← weightedSum_map]
  exact vanish _ (List.mem_map_of_mem member)

theorem Generates.mapM_gather (generates : shape.Generates generator)
    (selects : shape.Selects parities columns) :
    parities.mapM (generator.gather · columns) = .ok (shape.selectedRows parities columns) := by
  apply Outcome.mapM_eq_ok
  intro parity member
  exact generates.gather_eq (selects.isGlobal parity member).2 selects.isData

theorem Sound.rowsInvert_selectedRows (sound : shape.Sound)
    (selects : shape.Selects parities columns) (count : parities.length = columns.length) :
    DenseMatrix.RowsInvert (shape.selectedRows parities columns) := by
  apply DenseMatrix.rowsInvert_of_kernel selects.columnsDistinct
    ((List.length_map _).trans count) length_of_mem_selectedRows
  intro data vanish
  exact sound.eq_zero_of_globals selects.paritiesDistinct
    (fun parity member => mem_globalParities.mpr (selects.isGlobal parity member))
    selects.isData selects.columnsDistinct (vanish_of_selectedRows vanish) count.ge

theorem Sound.rowsInvert_insert_ones (sound : shape.Sound)
    (selects : shape.Selects parities columns)
    (count : parities.length + 1 = columns.length) {position : Nat}
    (inside : position ≤ parities.length) :
    DenseMatrix.RowsInvert ((shape.selectedRows parities columns).insertIdx position
      (List.replicate columns.length 1)) := by
  have fits : position ≤ (shape.selectedRows parities columns).length := by
    rw [selectedRows, List.length_map]
    exact inside
  have members : ∀ {entries}, entries ∈ (shape.selectedRows parities columns).insertIdx position
      (List.replicate columns.length 1) ↔
        entries = List.replicate columns.length 1 ∨
          entries ∈ shape.selectedRows parities columns :=
    List.mem_insertIdx fits
  apply DenseMatrix.rowsInvert_of_kernel selects.columnsDistinct
  · rw [List.length_insertIdx_of_le_length fits, selectedRows, List.length_map, count]
  · intro entries member
    rcases members.mp member with rfl | isRow
    · exact List.length_replicate
    · exact length_of_mem_selectedRows entries isRow
  · intro data vanish
    have total : (columns.map data).sum = 0 := by
      rw [← weightedSum_replicate]
      exact vanish _ (members.mpr (.inl rfl))
    have rows := fun entries isRow => vanish entries (members.mpr (.inr isRow))
    exact sound.eq_zero_of_globals_of_sum selects.paritiesDistinct
      (fun parity member => mem_globalParities.mpr (selects.isGlobal parity member))
      selects.isData selects.columnsDistinct (vanish_of_selectedRows rows) total count.ge

/-- Distinct global rows of the generator at as many distinct columns are inverted by
elimination, and so is one row less with a row of ones at any position. -/
theorem generator_minors_invert (generated : shape.generator = .ok generator)
    (selects : shape.Selects parities columns) :
    ∃ rows, parities.mapM (generator.gather · columns) = .ok rows ∧
      (parities.length = columns.length → DenseMatrix.RowsInvert rows) ∧
      (parities.length + 1 = columns.length → ∀ position ≤ parities.length,
        DenseMatrix.RowsInvert
          (rows.insertIdx position (List.replicate columns.length 1))) := by
  obtain ⟨sound, generates⟩ := generates_of_generator generated
  refine ⟨_, generates.mapM_gather selects, ?_, ?_⟩
  · exact fun count => sound.rowsInvert_selectedRows selects count
  · exact fun count position inside => sound.rowsInvert_insert_ones selects count inside

/-- Both global parities of a small code, in descending order, at two columns, and at
three with ones between them. -/
theorem generator_minors_invert_descending :
    ∃ generator rows more, Shape.generator ⟨4, 2, 2⟩ = .ok generator ∧
      [7, 6].mapM (generator.gather · [3, 0]) = .ok rows ∧
      [7, 6].mapM (generator.gather · [2, 0, 1]) = .ok more ∧
      DenseMatrix.RowsInvert rows ∧ DenseMatrix.RowsInvert (more.insertIdx 1 [1, 1, 1]) := by
  obtain ⟨generator, generated, _⟩ :=
    Sound.generator (check_eq_ok_iff.mp (rfl : Shape.check ⟨4, 2, 2⟩ = .ok ()))
  have pair : Selects ⟨4, 2, 2⟩ [7, 6] [3, 0] :=
    ⟨by decide, by decide, by decide, by decide⟩
  have triple : Selects ⟨4, 2, 2⟩ [7, 6] [2, 0, 1] :=
    ⟨by decide, by decide, by decide, by decide⟩
  obtain ⟨rows, gathered, square, _⟩ := generator_minors_invert generated pair
  obtain ⟨more, moreGathered, _, ones⟩ := generator_minors_invert generated triple
  exact ⟨generator, rows, more, generated, gathered, moreGathered, square rfl,
    ones rfl 1 (by decide)⟩

end Shape

end LocalRepair

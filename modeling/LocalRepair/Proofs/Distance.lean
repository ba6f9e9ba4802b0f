import Mathlib
import LocalRepair.Proofs.Elimination
import LocalRepair.Proofs.SingleGroup

/-!
# Minimum distance

A codeword of data that is not zero has at least `g + 2` symbols that are not zero.
As many global parities as there are non-zero data symbols cannot all vanish, and one
less cannot if the local parities vanish, for then the data adds up to zero.  So
different data differ in `g + 2` blocks, and a loss of fewer leaves them different.
-/

namespace LocalRepair

theorem sum_range_eq (count : Nat) (value : Nat → GF256) :
    ((List.range count).map value).sum = ∑ index ∈ Finset.range count, value index := by
  rw [← List.sum_toFinset _ List.nodup_range, List.toFinset_range]

namespace Shape

variable {shape : Shape} {data : Nat → GF256}

/-- The symbol of a block in the codeword of some data. -/
def symbol (shape : Shape) (data : Nat → GF256) (row : Nat) : GF256 :=
  ((List.range shape.k).map fun col => shape.coefficient row col * data col).sum

/-- The data blocks whose symbol is not zero. -/
def dataSupport (shape : Shape) (data : Nat → GF256) : List Nat :=
  (List.range shape.k).filter fun block => data block ≠ 0

/-- The global parities whose symbol is zero. -/
def vanishingGlobals (shape : Shape) (data : Nat → GF256) : List Nat :=
  shape.globalParities.filter fun parity => shape.symbol data parity = 0

theorem mem_dataSupport {block : Nat} :
    block ∈ shape.dataSupport data ↔ block < shape.k ∧ data block ≠ 0 := by
  simp [dataSupport]

theorem nodup_dataSupport : (shape.dataSupport data).Nodup :=
  List.nodup_range.filter _

theorem sum_dataSupport (coefficient : Nat → GF256) :
    ((shape.dataSupport data).map fun block => coefficient block * data block).sum =
      ((List.range shape.k).map fun block => coefficient block * data block).sum := by
  symm
  apply sum_range_of_supported nodup_dataSupport
  · intro block member
    exact (mem_dataSupport.mp member).1
  · intro block inside outside
    have zero : data block = 0 := by
      by_contra nonzero
      exact outside (mem_dataSupport.mpr ⟨inside, nonzero⟩)
    rw [zero, mul_zero]

private theorem vanish_on_support :
    ∀ parity ∈ shape.vanishingGlobals data,
      ((shape.dataSupport data).map fun block =>
        shape.coefficient parity block * data block).sum = 0 := by
  intro parity member
  rw [sum_dataSupport (shape.coefficient parity)]
  exact of_decide_eq_true (List.mem_filter.mp member).2

private theorem nodup_vanishingGlobals : (shape.vanishingGlobals data).Nodup :=
  List.Nodup.filter _ List.nodup_range'

private theorem isGlobal_of_vanishing :
    ∀ parity ∈ shape.vanishingGlobals data, parity ∈ shape.globalParities :=
  fun _ member => (List.mem_filter.mp member).1

theorem Sound.length_vanishingGlobals_lt (sound : shape.Sound)
    (nonzero : ∃ block < shape.k, data block ≠ 0) :
    (shape.vanishingGlobals data).length < (shape.dataSupport data).length := by
  obtain ⟨block, inside, isNonzero⟩ := nonzero
  by_contra many
  apply isNonzero
  exact sound.eq_zero_of_globals nodup_vanishingGlobals isGlobal_of_vanishing
    (fun _ member => (mem_dataSupport.mp member).1) nodup_dataSupport vanish_on_support
    (Nat.le_of_not_lt many) block (mem_dataSupport.mpr ⟨inside, isNonzero⟩)

theorem Sound.sum_localParities (sound : shape.Sound) (data : Nat → GF256) :
    ((List.range shape.l).map fun group => shape.symbol data (shape.localParity group)).sum =
      ((List.range shape.k).map data).sum := by
  have parity : ∀ group ∈ Finset.range shape.l,
      shape.symbol data (shape.localParity group) =
        ∑ col ∈ Finset.range shape.k, if col / shape.b = group then data col else 0 := by
    intro group member
    rw [symbol, sum_range_eq]
    apply Finset.sum_congr rfl
    intro col _
    rw [coefficient_localParity (Finset.mem_range.mp member), ite_mul, one_mul, zero_mul]
  rw [sum_range_eq, sum_range_eq, Finset.sum_congr rfl parity, Finset.sum_comm]
  apply Finset.sum_congr rfl
  intro col member
  have inside := sound.group_lt (Finset.mem_range.mp member)
  simp [inside]

theorem Sound.length_vanishingGlobals_succ_lt (sound : shape.Sound)
    (nonzero : ∃ block < shape.k, data block ≠ 0)
    (locals : ∀ group < shape.l, shape.symbol data (shape.localParity group) = 0) :
    (shape.vanishingGlobals data).length + 1 < (shape.dataSupport data).length := by
  obtain ⟨block, inside, isNonzero⟩ := nonzero
  have total : ((shape.dataSupport data).map data).sum = 0 := by
    have support : ((shape.dataSupport data).map data).sum =
        ((List.range shape.k).map data).sum := by
      simpa only [one_mul] using sum_dataSupport fun _ => 1
    rw [support, ← sound.sum_localParities]
    apply List.sum_eq_zero
    intro symbol member
    obtain ⟨group, groupMember, rfl⟩ := List.mem_map.mp member
    exact locals group (List.mem_range.mp groupMember)
  by_contra many
  apply isNonzero
  exact sound.eq_zero_of_globals_of_sum nodup_vanishingGlobals isGlobal_of_vanishing
    (fun _ member => (mem_dataSupport.mp member).1) nodup_dataSupport vanish_on_support total
    (Nat.le_of_not_lt many) block (mem_dataSupport.mpr ⟨inside, isNonzero⟩)

/-- The number of symbols of a codeword that are not zero. -/
def weight (shape : Shape) (data : Nat → GF256) : Nat :=
  ((List.range shape.n).filter fun row => shape.symbol data row ≠ 0).length

theorem weight_add_vanishingGlobals (shape : Shape) (data : Nat → GF256) :
    shape.weight data + (shape.vanishingGlobals data).length =
      (shape.dataSupport data).length +
        ((List.range' shape.k shape.l).filter fun row => shape.symbol data row ≠ 0).length +
          shape.g := by
  have rows : List.range shape.n =
      List.range shape.k ++ List.range' shape.k shape.l ++ shape.globalParities := by
    rw [List.range_eq_range', List.range_eq_range', globalParities, n]
    have first := @List.range'_append_1 0 shape.k shape.l
    have second := @List.range'_append_1 0 (shape.k + shape.l) shape.g
    rw [Nat.zero_add] at first second
    rw [first, second]
  have dataPart : (List.range shape.k).filter (fun row => shape.symbol data row ≠ 0) =
      shape.dataSupport data := by
    apply List.filter_congr
    intro row member
    rw [symbol, sum_coefficient_data (List.mem_range.mp member)]
  have globals := List.length_eq_length_filter_add (l := shape.globalParities)
    fun row => decide (shape.symbol data row = 0)
  have globalPart : (shape.globalParities.filter fun row => !decide (shape.symbol data row = 0)) =
      shape.globalParities.filter fun row => shape.symbol data row ≠ 0 := by
    apply List.filter_congr
    intro row _
    simp
  have count : shape.globalParities.length = shape.g := List.length_range'
  rw [globalPart, count] at globals
  rw [weight, rows, List.filter_append, List.filter_append, List.length_append,
    List.length_append, dataPart, vanishingGlobals]
  omega

/-- Codewords of non-zero data have weight `g + 2` or more. -/
theorem Sound.le_weight (sound : shape.Sound)
    (nonzero : ∃ block < shape.k, data block ≠ 0) : shape.g + 2 ≤ shape.weight data := by
  have parts := weight_add_vanishingGlobals shape data
  -- A local parity that does not vanish counts itself; if all do, one global parity more counts.
  by_cases locals : ∀ group < shape.l, shape.symbol data (shape.localParity group) = 0
  · have few := sound.length_vanishingGlobals_succ_lt nonzero locals
    omega
  · have few := sound.length_vanishingGlobals_lt nonzero
    push Not at locals
    obtain ⟨group, inside, isNonzero⟩ := locals
    have counted : shape.localParity group ∈
        (List.range' shape.k shape.l).filter fun row => shape.symbol data row ≠ 0 := by
      rw [List.mem_filter, List.mem_range'_1, localParity, decide_eq_true_eq]
      exact ⟨by omega, isNonzero⟩
    have some := List.length_pos_of_mem counted
    omega

end Shape

namespace DenseMatrix

/-- The rows whose products with two vectors differ. -/
def differingRows (matrix : DenseMatrix) (left right : Nat → GF256) : List Nat :=
  (List.range matrix.rows).filter fun row =>
    matrix.rowProduct row left ≠ matrix.rowProduct row right

theorem rowProduct_sub (matrix : DenseMatrix) (row : Nat) (left right : Nat → GF256) :
    matrix.rowProduct row (left - right) =
      matrix.rowProduct row left - matrix.rowProduct row right := by
  simp [rowProduct, mul_sub, Finset.sum_sub_distrib]

end DenseMatrix

namespace Shape

variable {shape : Shape} {matrix : DenseMatrix}

theorem Generates.rowProduct_eq (generates : shape.Generates matrix) {row : Nat}
    (inside : row < shape.n) (data : Nat → GF256) :
    matrix.rowProduct row data = shape.symbol data row := by
  rw [DenseMatrix.rowProduct, symbol, sum_range_eq, generates.cols_eq]
  apply Finset.sum_congr rfl
  intro col member
  rw [generates.get_eq row inside col (Finset.mem_range.mp member)]

theorem Generates.length_differingRows (generates : shape.Generates matrix)
    (left right : Nat → GF256) :
    (matrix.differingRows left right).length = shape.weight (left - right) := by
  rw [DenseMatrix.differingRows, generates.rows_eq, weight]
  congr 1
  apply List.filter_congr
  intro row member
  rw [← generates.rowProduct_eq (List.mem_range.mp member), DenseMatrix.rowProduct_sub]
  simp [sub_eq_zero]

theorem Sound.le_length_differingRows (sound : shape.Sound)
    (generates : shape.Generates matrix) {left right : Nat → GF256}
    (different : ∃ col < shape.k, left col ≠ right col) :
    shape.g + 2 ≤ (matrix.differingRows left right).length := by
  rw [generates.length_differingRows]
  apply sound.le_weight
  obtain ⟨col, inside, isDifferent⟩ := different
  exact ⟨col, inside, sub_ne_zero.mpr isDifferent⟩

/-- The products of the generator with non-zero data have at least `g + 2` non-zero
entries, those with different data differ in as many, and `g + 1` blocks can be lost
without data becoming ambiguous. -/
theorem generator_distance (generated : shape.generator = .ok matrix) :
    matrix.rows = shape.n ∧ matrix.cols = shape.k ∧
    (∀ data : Nat → GF256, (∃ col < shape.k, data col ≠ 0) →
      shape.g + 2 ≤
        ((List.range matrix.rows).filter fun row => matrix.rowProduct row data ≠ 0).length) ∧
    (∀ left right : Nat → GF256, (∃ col < shape.k, left col ≠ right col) →
      shape.g + 2 ≤ (matrix.differingRows left right).length) ∧
    ∀ lost : List Nat, lost.length ≤ shape.g + 1 → ∀ left right : Nat → GF256,
      (∀ row < shape.n, row ∉ lost → matrix.rowProduct row left = matrix.rowProduct row right) →
      ∀ col < shape.k, left col = right col := by
  obtain ⟨sound, generates⟩ := generates_of_generator generated
  refine ⟨generates.rows_eq, generates.cols_eq, ?_, ?_, ?_⟩
  · intro data nonzero
    have bound : shape.g + 2 ≤ (matrix.differingRows data 0).length :=
      sound.le_length_differingRows generates nonzero
    have zero : ∀ row, matrix.rowProduct row 0 = 0 :=
      fun row => DenseMatrix.rowProduct_zero fun _ _ => rfl
    simpa only [DenseMatrix.differingRows, zero] using bound
  · intro left right different
    exact sound.le_length_differingRows generates different
  · intro lost few left right agree
    by_contra ambiguous
    push Not at ambiguous
    have many := sound.le_length_differingRows generates ambiguous
    have within : matrix.differingRows left right ⊆ lost := by
      intro row member
      rw [DenseMatrix.differingRows, List.mem_filter, List.mem_range, generates.rows_eq,
        decide_eq_true_eq] at member
      by_contra kept
      exact member.2 (agree row member.1 kept)
    have distinct : (matrix.differingRows left right).Nodup := List.nodup_range.filter _
    have short := (distinct.subperm within).length_le
    omega

/-- A single data symbol of a code with two local groups and two global parities. -/
theorem generator_distance_unit :
    ∃ matrix, Shape.generator ⟨4, 2, 2⟩ = .ok matrix ∧
      (∃ col < 4, (fun col => if col = 1 then ⟨7⟩ else 0 : Nat → GF256) col ≠ 0) ∧
      4 ≤ ((List.range matrix.rows).filter fun row =>
        matrix.rowProduct row (fun col => if col = 1 then ⟨7⟩ else 0) ≠ 0).length := by
  obtain ⟨matrix, generated, _⟩ :=
    Sound.generator (check_eq_ok_iff.mp (rfl : Shape.check ⟨4, 2, 2⟩ = .ok ()))
  have nonzero : ∃ col < 4,
      (fun col => if col = 1 then ⟨7⟩ else 0 : Nat → GF256) col ≠ 0 :=
    ⟨1, by decide, by decide⟩
  exact ⟨matrix, generated, nonzero, (generator_distance generated).2.2.1 _ nonzero⟩

end Shape

end LocalRepair

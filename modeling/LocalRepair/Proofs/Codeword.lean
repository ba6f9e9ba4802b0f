import Mathlib
import LocalRepair.Code.Generator
import LocalRepair.Proofs.Field
import LocalRepair.Proofs.MatrixRows
import LocalRepair.Proofs.Outcome

/-!
# Codewords

Every shape that passes its checks has a generator, and its rows say how the
values of a codeword depend on those of the data blocks.  In a codeword a local
parity adds up the data of its group, and a global parity combines all data with
the entries of a Cauchy matrix.
-/

namespace LocalRepair

namespace Shape

/-- What the checks of a shape establish. -/
structure Sound (shape : Shape) : Prop where
  data : shape.k ≠ 0
  groups : shape.l ≠ 0
  divides : shape.k % shape.l = 0
  width : shape.n ≤ 256

theorem check_eq_ok_iff {shape : Shape} : shape.check = .ok () ↔ shape.Sound := by
  constructor
  · intro success
    rw [check, Outcome.bind_eq_ok_iff] at success
    obtain ⟨_, data, success⟩ := success
    rw [Outcome.bind_eq_ok_iff] at success
    obtain ⟨_, groups, success⟩ := success
    rw [Outcome.bind_eq_ok_iff] at success
    obtain ⟨_, divides, width⟩ := success
    exact ⟨Outcome.ensure_eq_ok_iff.mp data, Outcome.ensure_eq_ok_iff.mp groups,
      Outcome.ensure_eq_ok_iff.mp divides, Outcome.ensure_eq_ok_iff.mp width⟩
  · intro sound
    rw [check, Outcome.ensure_of sound.data, Outcome.ok_bind,
      Outcome.ensure_of sound.groups, Outcome.ok_bind, Outcome.ensure_of sound.divides,
      Outcome.ok_bind, Outcome.ensure_of sound.width]

section

variable {shape : Shape}

theorem k_le_n (shape : Shape) : shape.k ≤ shape.n := by
  unfold n
  omega

theorem Sound.dvd (sound : shape.Sound) : shape.l ∣ shape.k :=
  Nat.dvd_of_mod_eq_zero sound.divides

theorem Sound.groups_mul (sound : shape.Sound) : shape.l * shape.b = shape.k :=
  Nat.mul_div_cancel' sound.dvd

theorem Sound.b_pos (sound : shape.Sound) : 0 < shape.b := by
  apply Nat.pos_of_ne_zero
  intro none
  have product := sound.groups_mul
  rw [none, Nat.mul_zero] at product
  exact sound.data product.symm

theorem Sound.group_lt (sound : shape.Sound) {block : Nat} (inside : block < shape.k) :
    block / shape.b < shape.l := by
  rw [Nat.div_lt_iff_lt_mul sound.b_pos, sound.groups_mul]
  exact inside

theorem Sound.mem_groupData (sound : shape.Sound) {block group : Nat} :
    block ∈ shape.groupData group ↔ block / shape.b = group := by
  rw [groupData, List.mem_range'_1, Nat.div_eq_iff sound.b_pos]
  have positive := sound.b_pos
  omega

theorem Sound.groupData_inside (sound : shape.Sound) {block group : Nat}
    (inside : group < shape.l) (member : block ∈ shape.groupData group) : block < shape.k := by
  rw [groupData, List.mem_range'_1] at member
  have bound : (group + 1) * shape.b ≤ shape.l * shape.b := Nat.mul_le_mul_right _ inside
  rw [sound.groups_mul, Nat.add_mul, Nat.one_mul] at bound
  omega

theorem localGroup_localParity {group : Nat} (inside : group < shape.l) :
    shape.localGroup? (shape.localParity group) = some group := by
  rw [localGroup?, localParity, if_neg (by omega), if_pos (by omega), Nat.add_sub_cancel_left]

theorem mem_globalParities {parity : Nat} :
    parity ∈ shape.globalParities ↔ shape.k + shape.l ≤ parity ∧ parity < shape.n := by
  rw [globalParities, List.mem_range'_1, n]

/-- The coefficient with which a block depends on a data block. -/
def coefficient (shape : Shape) (row col : Nat) : GF256 :=
  if row < shape.k then if row = col then 1 else 0
  else if row < shape.k + shape.l then if col / shape.b = row - shape.k then 1 else 0
  else 1 / (GF256.ofNat row + GF256.ofNat col)

theorem coefficient_global {row : Nat} (isGlobal : shape.k + shape.l ≤ row) (col : Nat) :
    shape.coefficient row col = 1 / (GF256.ofNat row + GF256.ofNat col) := by
  rw [coefficient, if_neg (by omega), if_neg (by omega)]

theorem coefficient_localParity {group : Nat} (inside : group < shape.l) (col : Nat) :
    shape.coefficient (shape.localParity group) col =
      if col / shape.b = group then 1 else 0 := by
  rw [coefficient, localParity, if_neg (by omega), if_pos (by omega),
    Nat.add_sub_cancel_left]

theorem Sound.add_ne_zero (sound : shape.Sound) {row col : Nat} (rowInside : row < shape.n)
    (colInside : col < shape.n) (different : row ≠ col) :
    GF256.ofNat row + GF256.ofNat col ≠ 0 := by
  intro zero
  have width := sound.width
  apply different
  apply GF256.ofNat_inj (by omega) (by omega)
  rw [← sub_eq_zero, sub_eq_add_neg, GF256.neg_eq_self, zero]

theorem Sound.generatorEntry_eq (sound : shape.Sound) {row col : Nat}
    (rowInside : row < shape.n) (colInside : col < shape.k) :
    shape.generatorEntry row col = .ok (shape.coefficient row col) := by
  unfold generatorEntry coefficient
  split_ifs with isData same isLocal inGroup
  · rfl
  · rfl
  · rfl
  · rfl
  · have widths := k_le_n shape
    rw [GF256.ofNat_xor]
    exact GF256.divide_eq_ok (sound.add_ne_zero rowInside (by omega) (by omega)) 1

end

/-- A matrix that holds the coefficients of a shape. -/
structure Generates (shape : Shape) (matrix : DenseMatrix) : Prop where
  wellFormed : matrix.WellFormed
  rows_eq : matrix.rows = shape.n
  cols_eq : matrix.cols = shape.k
  get_eq : ∀ row < shape.n, ∀ col < shape.k,
    matrix.get row col = shape.coefficient row col

theorem Sound.generator {shape : Shape} (sound : shape.Sound) :
    ∃ matrix, shape.generator = .ok matrix ∧ shape.Generates matrix := by
  let rows := (List.range shape.n).map fun row =>
    (List.range shape.k).map (shape.coefficient row)
  have compute : ((List.range shape.n).mapM fun row =>
      (List.range shape.k).mapM (shape.generatorEntry row)) = .ok rows := by
    apply Outcome.mapM_eq_ok
    intro row rowMember
    apply Outcome.mapM_eq_ok
    intro col colMember
    exact sound.generatorEntry_eq (List.mem_range.mp rowMember) (List.mem_range.mp colMember)
  have lengths : ∀ entries ∈ rows, entries.length = shape.k := by
    intro entries member
    obtain ⟨row, _, rfl⟩ := List.mem_map.mp member
    simp
  have count : rows.length = shape.n := by simp [rows]
  refine ⟨⟨rows.length, shape.k, rows.flatten.toArray⟩, ?_, ?_⟩
  · rw [Shape.generator, check_eq_ok_iff.mpr sound, Outcome.ok_bind, compute, Outcome.ok_bind,
      count, Outcome.pure_eq_ok]
  · refine ⟨DenseMatrix.wellFormed_flatten lengths, count, rfl, ?_⟩
    intro row rowInside col colInside
    rw [DenseMatrix.get_flatten lengths colInside]
    simp [rows, rowInside, colInside]

section

variable {shape : Shape} {matrix : DenseMatrix}

theorem generates_of_generator (generated : shape.generator = .ok matrix) :
    shape.Sound ∧ shape.Generates matrix := by
  have checked := generated
  rw [generator, Outcome.bind_eq_ok_iff] at checked
  obtain ⟨_, shapeOk, _⟩ := checked
  have sound := check_eq_ok_iff.mp shapeOk
  obtain ⟨found, foundOk, generates⟩ := sound.generator
  rw [generated, Except.ok.injEq] at foundOk
  exact ⟨sound, foundOk ▸ generates⟩

theorem Generates.row_eq (generates : shape.Generates matrix) {row : Nat}
    (inside : row < shape.n) :
    matrix.row row = .ok ((List.range shape.k).map (shape.coefficient row)) := by
  rw [DenseMatrix.row_eq_ok generates.wellFormed (by rw [generates.rows_eq]; exact inside),
    generates.cols_eq]
  congr 1
  apply List.map_congr_left
  intro col member
  exact generates.get_eq row inside col (List.mem_range.mp member)

theorem Generates.gather_eq (generates : shape.Generates matrix) {row : Nat}
    (inside : row < shape.n) {cols : List Nat} (colsInside : ∀ col ∈ cols, col < shape.k) :
    matrix.gather row cols = .ok (cols.map (shape.coefficient row)) := by
  rw [DenseMatrix.gather_eq_ok generates.wellFormed (by rw [generates.rows_eq]; exact inside)
    (by rw [generates.cols_eq]; exact colsInside)]
  congr 1
  apply List.map_congr_left
  intro col member
  exact generates.get_eq row inside col (colsInside col member)

end

/-- Values at the indices of a stripe that encoding the data among them gives. -/
def Codeword (shape : Shape) (value : Nat → GF256) : Prop :=
  ∀ row < shape.n,
    value row = ((List.range shape.k).map fun col => shape.coefficient row col * value col).sum

theorem sum_coefficient_data {shape : Shape} {row : Nat} (inside : row < shape.k)
    (value : Nat → GF256) :
    ((List.range shape.k).map fun col => shape.coefficient row col * value col).sum =
      value row := by
  rw [← List.sum_toFinset _ List.nodup_range, Finset.sum_eq_single row]
  · rw [coefficient, if_pos inside, if_pos rfl, one_mul]
  · intro col _ different
    rw [coefficient, if_pos inside, if_neg different.symm, zero_mul]
  · intro absent
    simp [inside] at absent

theorem Codeword.localParity {shape : Shape} {value : Nat → GF256}
    (codeword : shape.Codeword value) {group : Nat} (inside : group < shape.l) :
    value (shape.localParity group) =
      ((List.range shape.k).map fun col =>
        if col / shape.b = group then value col else 0).sum := by
  rw [codeword _ (by rw [Shape.localParity, n]; omega)]
  congr 1
  apply List.map_congr_left
  intro col _
  rw [coefficient_localParity inside]
  split
  · rw [one_mul]
  · rw [zero_mul]

end Shape

end LocalRepair

import Mathlib
import LocalRepair.Proofs.Combination

/-!
# Products of a matrix and blocks

A matrix is multiplied with as many blocks as it has columns, all of one length, into as
many blocks as it has rows.  The product does not depend on what was held there before, its
bytes are the sums that the rows stand for, and numbers or lengths that do not fit are
found before anything is written.
-/

namespace LocalRepair

namespace Block

theorem accumulate_eq_zipWith (sum block : Block) (coefficient : GF256)
    (length : sum.length = block.length) :
    accumulate sum coefficient block =
      List.zipWith (fun total byte => total + byte * coefficient) sum block := by
  unfold accumulate
  split_ifs with isZero isOne
  · apply List.ext_getElem
    · simp [length]
    · intro position _ _
      simp [isZero]
  · simp [isOne]
  · rfl

theorem byte_combine_eq_sum {size : Nat} {blocks : List Block}
    (lengths : ∀ block ∈ blocks, block.length = size) (coefficient : Nat → GF256)
    (position : Nat) :
    byte (combine size blocks ((List.range blocks.length).map coefficient)) position =
      ∑ col ∈ Finset.range blocks.length,
        coefficient col * byte (blocks.getD col []) position := by
  have terms : ((blocks.zip ((List.range blocks.length).map coefficient)).map fun term =>
      term.2 * byte term.1 position) =
        (List.range blocks.length).map fun col =>
          coefficient col * byte (blocks.getD col []) position := by
    apply List.ext_getElem
    · simp
    · intro col leftInside _
      have inside : col < blocks.length := by simpa using leftInside
      simp [inside]
  rw [byte_combine lengths, terms, ← List.sum_toFinset _ List.nodup_range,
    List.toFinset_range]

end Block

variable {coefficients : DenseMatrix} {outputs inputs : List Block}

theorem exists_length_iff :
    (∃ size, ∀ input ∈ inputs, input.length = size) ↔
      ∀ input ∈ inputs, input.length = firstLength inputs := by
  constructor
  · rintro ⟨size, lengths⟩ input member
    obtain ⟨head, tail, rfl⟩ := List.exists_cons_of_ne_nil (List.ne_nil_of_mem member)
    rw [lengths input member]
    exact (lengths head List.mem_cons_self).symm
  · intro lengths
    exact ⟨_, lengths⟩

theorem fits_iff : Fits outputs inputs coefficients ↔
    outputs.length = coefficients.rows ∧ inputs.length = coefficients.cols ∧
      ∃ size, ∀ input ∈ inputs, input.length = size := by
  rw [exists_length_iff]
  exact ⟨fun fits => ⟨fits.rows, fits.cols, fits.lengths⟩,
    fun ⟨rows, cols, lengths⟩ => ⟨rows, cols, lengths⟩⟩

theorem multiplyAccumulate_of_not_fits (misfit : ¬Fits outputs inputs coefficients) :
    ∃ expected actual, expected ≠ actual ∧
      multiplyAccumulate outputs inputs coefficients =
        ⟨outputs, .error (.sizeMismatch expected actual)⟩ := by
  unfold multiplyAccumulate
  split_ifs with rows cols
  · exact ⟨_, _, Ne.symm rows, rfl⟩
  · exact ⟨_, _, Ne.symm cols, rfl⟩
  · rw [not_not] at rows cols
    dsimp only
    rw [← firstLength]
    cases found : inputs.find? (·.length ≠ firstLength inputs) with
    | none =>
        have lengths : ∀ input ∈ inputs, input.length = firstLength inputs := by
          simpa using found
        exact absurd ⟨rows, cols, lengths⟩ misfit
    | some input =>
        have other := List.find?_some found
        exact ⟨_, _, Ne.symm (of_decide_eq_true other), rfl⟩

theorem Fits.row_product (fits : Fits outputs inputs coefficients)
    (wellFormed : coefficients.WellFormed) {row : Nat} {output : Block}
    (isOutput :
      (multiplyAccumulate outputs inputs coefficients).outputs[row]? = some output) :
    output.length = firstLength inputs ∧ ∀ position < output.length,
      output[position]? = some (∑ col ∈ Finset.range coefficients.cols,
        coefficients.get row col * (inputs.getD col []).getD position 0) := by
  rw [multiplyAccumulate_of_fits wellFormed fits, List.getElem?_map,
    Option.map_eq_some_iff] at isOutput
  obtain ⟨listed, isListed, isOutput⟩ := isOutput
  obtain ⟨_, rfl⟩ := List.getElem?_eq_some_iff.mp isListed
  rw [List.getElem_range] at isOutput
  have length : output.length = firstLength inputs := by
    rw [← isOutput, Block.length_combine fits.lengths]
  refine ⟨length, ?_⟩
  intro position inside
  have isByte : output[position]? = some (Block.byte output position) := by
    simp [Block.byte, inside]
  rw [isByte, ← isOutput, ← fits.cols, Block.byte_combine_eq_sum fits.lengths]
  rfl

theorem Fits.independent (fits : Fits outputs inputs coefficients)
    (wellFormed : coefficients.WellFormed) {others : List Block}
    (sameNumber : others.length = outputs.length) :
    multiplyAccumulate others inputs coefficients =
      multiplyAccumulate outputs inputs coefficients := by
  have othersFit : Fits others inputs coefficients :=
    ⟨sameNumber.trans fits.rows, fits.cols, fits.lengths⟩
  rw [multiplyAccumulate_of_fits wellFormed fits,
    multiplyAccumulate_of_fits wellFormed othersFit, sameNumber]

/-- Coefficients that fit give their products with the inputs, whatever the outputs held
before; all others are refused and leave the outputs as they are. -/
theorem multiplyAccumulate_products (wellFormed : coefficients.WellFormed)
    (outputs inputs : List Block) :
    ((multiplyAccumulate outputs inputs coefficients).outcome = .ok () ↔
      outputs.length = coefficients.rows ∧ inputs.length = coefficients.cols ∧
        ∃ size, ∀ input ∈ inputs, input.length = size) ∧
    ((multiplyAccumulate outputs inputs coefficients).outcome = .ok () →
      (multiplyAccumulate outputs inputs coefficients).outputs.length = outputs.length ∧
      (∀ (row : Nat) (output : Block),
        (multiplyAccumulate outputs inputs coefficients).outputs[row]? = some output →
          (inputs = [] → output = []) ∧
          (∀ input ∈ inputs, output.length = input.length) ∧
          ∀ position < output.length, output[position]? =
            some (∑ col ∈ Finset.range coefficients.cols,
              coefficients.get row col * (inputs.getD col []).getD position 0)) ∧
      ∀ others : List Block, others.length = outputs.length →
        multiplyAccumulate others inputs coefficients =
          multiplyAccumulate outputs inputs coefficients) ∧
    (∀ cause, (multiplyAccumulate outputs inputs coefficients).outcome = .error cause →
      (∃ expected actual, expected ≠ actual ∧ cause = .sizeMismatch expected actual) ∧
        (multiplyAccumulate outputs inputs coefficients).outputs = outputs) ∧
    ∀ (sum block : Block) (coefficient : GF256), sum.length = block.length →
      Block.accumulate sum coefficient block =
        List.zipWith (fun total byte => total + byte * coefficient) sum block := by
  rw [← fits_iff]
  by_cases fits : Fits outputs inputs coefficients
  · have product := multiplyAccumulate_of_fits wellFormed fits
    refine ⟨iff_of_true (by rw [product]) fits, fun _ => ⟨?_, ?_, ?_⟩, ?_,
      Block.accumulate_eq_zipWith⟩
    · rw [product, List.length_map, List.length_range]
    · intro row output isOutput
      obtain ⟨length, bytes⟩ := fits.row_product wellFormed isOutput
      have sizes : ∀ input ∈ inputs, output.length = input.length :=
        fun input member => length.trans (fits.lengths input member).symm
      refine ⟨?_, sizes, bytes⟩
      rintro rfl
      exact List.length_eq_zero_iff.mp length
    · intro others sameNumber
      exact fits.independent wellFormed sameNumber
    · intro cause refused
      rw [product] at refused
      cases refused
  · obtain ⟨expected, actual, different, refused⟩ := multiplyAccumulate_of_not_fits fits
    have notOk : (multiplyAccumulate outputs inputs coefficients).outcome ≠ .ok () := by
      rw [refused]
      simp
    refine ⟨iff_of_false notOk fits, fun succeeded => absurd succeeded notOk, ?_,
      Block.accumulate_eq_zipWith⟩
    rw [refused]
    rintro cause ⟨⟩
    exact ⟨⟨expected, actual, different, rfl⟩, rfl⟩

/-- A sum, a product by a coefficient beyond one and a carry into the field's polynomial
replace what two blocks of other lengths held; a short input replaces nothing. -/
theorem multiplyAccumulate_products_overwrites :
    (⟨2, 2, #[1, 1, 0, ⟨2⟩]⟩ : DenseMatrix).WellFormed ∧
    (multiplyAccumulate [[], [⟨170⟩, ⟨170⟩, ⟨170⟩]] [[⟨1⟩, ⟨2⟩], [⟨5⟩, ⟨128⟩]]
      ⟨2, 2, #[1, 1, 0, ⟨2⟩]⟩).outcome = .ok () ∧
    (multiplyAccumulate [[], [⟨170⟩, ⟨170⟩, ⟨170⟩]] [[⟨1⟩, ⟨2⟩], [⟨5⟩, ⟨128⟩]]
      ⟨2, 2, #[1, 1, 0, ⟨2⟩]⟩).outputs = [[⟨4⟩, ⟨130⟩], [⟨10⟩, ⟨29⟩]] ∧
    multiplyAccumulate [[⟨7⟩], []] [[⟨1⟩, ⟨2⟩], [⟨5⟩, ⟨128⟩]]
        ⟨2, 2, #[1, 1, 0, ⟨2⟩]⟩ =
      multiplyAccumulate [[], [⟨170⟩, ⟨170⟩, ⟨170⟩]] [[⟨1⟩, ⟨2⟩], [⟨5⟩, ⟨128⟩]]
        ⟨2, 2, #[1, 1, 0, ⟨2⟩]⟩ ∧
    (multiplyAccumulate [[], [⟨170⟩, ⟨170⟩, ⟨170⟩]] [[⟨1⟩, ⟨2⟩], [⟨5⟩]]
      ⟨2, 2, #[1, 1, 0, ⟨2⟩]⟩).outputs = [[], [⟨170⟩, ⟨170⟩, ⟨170⟩]] := by
  have wellFormed : (⟨2, 2, #[1, 1, 0, ⟨2⟩]⟩ : DenseMatrix).WellFormed := rfl
  obtain ⟨accepted, products, _⟩ := multiplyAccumulate_products wellFormed
    [[], [⟨170⟩, ⟨170⟩, ⟨170⟩]] [[⟨1⟩, ⟨2⟩], [⟨5⟩, ⟨128⟩]]
  obtain ⟨_, _, refused, _⟩ := multiplyAccumulate_products wellFormed
    [[], [⟨170⟩, ⟨170⟩, ⟨170⟩]] [[⟨1⟩, ⟨2⟩], [⟨5⟩]]
  have succeeded := accepted.mpr ⟨rfl, rfl, 2, by simp⟩
  obtain ⟨_, _, independent⟩ := products succeeded
  exact ⟨wellFormed, succeeded, by decide, independent _ rfl, (refused _ rfl).2⟩

end LocalRepair

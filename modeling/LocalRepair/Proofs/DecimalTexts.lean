import Mathlib
import LocalRepair.Policy.Document
import LocalRepair.Proofs.Numerals

/-!
# Decimal texts of numbers

The decimal digits of a number, zeros in front of them, a plus sign and blanks around all
that denote the number.  The digits alone, with a minus sign for a negative number, are an
integer to the reader of policy files too, and of 64 bits as long as the number is.
-/

namespace LocalRepair

namespace Text

/-- The texts that spell a number: its decimal text, with or without zeros and a plus sign
in front and blanks around. -/
def Spells (text : String) (number : Nat) : Prop :=
  ∃ (before sign : List Char) (zeros : Nat) (after : List Char),
    text.toList =
      before ++ (sign ++ List.replicate zeros '0' ++ (toString number).toList) ++ after ∧
    (∀ character ∈ before, isBlank character = true) ∧
    (∀ character ∈ after, isBlank character = true) ∧ (sign = [] ∨ sign = ['+'])

theorem toList_toString_nat (number : Nat) :
    (toString number).toList = Nat.toDigits 10 number := by
  rw [Nat.toString_eq_ofList_toDigits, String.toList_ofList]

theorem toList_toString_int (value : Int) :
    (toString value).toList =
      if 0 ≤ value then Nat.toDigits 10 value.toNat
      else '-' :: Nat.toDigits 10 (-value).toNat := by
  rw [Int.toString_eq_repr, Int.repr_eq_if]
  split_ifs
  · rw [Nat.repr_eq_ofList_toDigits, String.toList_ofList]
  · rw [Nat.repr_eq_ofList_toDigits, String.toList_append, String.toList_ofList,
      String.toList_ofList, List.singleton_append]

theorem isDigit_of_mem_toDigits {number : Nat} :
    ∀ digit ∈ Nat.toDigits 10 number, digit.isDigit = true :=
  fun _ member => Nat.isDigit_of_mem_toDigits (by decide) (by decide) member

theorem digits_of_zeros (zeros number : Nat) :
    (∀ digit ∈ List.replicate zeros '0' ++ Nat.toDigits 10 number, digit.isDigit = true) ∧
      Nat.ofDigitChars 10 (List.replicate zeros '0' ++ Nat.toDigits 10 number) 0 = number := by
  constructor
  · intro digit member
    rcases List.mem_append.mp member with isZero | printed
    · rw [List.eq_of_mem_replicate isZero]
      rfl
    · exact isDigit_of_mem_toDigits digit printed
  · rw [Nat.ofDigitChars_append, Nat.ofDigitChars_replicate_zero, Nat.mul_zero,
      Nat.ofDigitChars_ten_toDigits]

/-- A number of 64 bits is denoted by the texts that spell it. -/
theorem Spells.denotes {text : String} {number : Nat} (spells : Spells text number)
    (small : number < 2 ^ 63) : Denotes text number := by
  obtain ⟨before, sign, zeros, after, division, beforeBlank, afterBlank, isSign⟩ := spells
  obtain ⟨decimal, value⟩ := digits_of_zeros zeros number
  have someDigit : List.replicate zeros '0' ++ Nat.toDigits 10 number ≠ [] :=
    List.append_ne_nil_of_right_ne_nil _ Nat.toDigits_ne_nil
  have numeral : Numeral (sign ++ (List.replicate zeros '0' ++ Nat.toDigits 10 number))
      number := by
    rcases isSign with rfl | rfl
    · have unsigned := Numeral.unsigned someDigit decimal
      rwa [value] at unsigned
    · have positive := Numeral.positive someDigit decimal
      rwa [value] at positive
  rw [toList_toString_nat, List.append_assoc sign] at division
  exact ⟨⟨before, _, after, division, beforeBlank, afterBlank, numeral⟩, by omega,
    by exact_mod_cast small⟩

theorem numeral_toString (value : Int) : Numeral (toString value).toList value := by
  rw [toList_toString_int]
  split_ifs with sign
  · have numeral := Numeral.unsigned (Nat.toDigits_ne_nil (n := value.toNat))
      isDigit_of_mem_toDigits
    rwa [Nat.ofDigitChars_ten_toDigits, Int.toNat_of_nonneg sign] at numeral
  · have numeral := Numeral.negative (Nat.toDigits_ne_nil (n := (-value).toNat))
      isDigit_of_mem_toDigits
    rwa [Nat.ofDigitChars_ten_toDigits, Int.toNat_of_nonneg (by omega), Int.neg_neg] at numeral

theorem denotes_toString {value : Int} (low : -2 ^ 63 ≤ value) (high : value < 2 ^ 63) :
    Denotes (toString value) value :=
  ⟨⟨[], _, [], (List.append_nil _).symm, by simp, by simp, numeral_toString value⟩, low, high⟩

theorem tail_eq_nil_of_toDigits {number : Nat} {tail : List Char}
    (printed : Nat.toDigits 10 number = '0' :: tail) : tail = [] := by
  induction number using Nat.strongRecOn generalizing tail with
  | ind number ih =>
      rcases Nat.lt_or_ge number 10 with small | large
      · rw [Nat.toDigits_of_lt_base small, List.cons.injEq] at printed
        exact printed.2.symm
      · rw [Nat.toDigits_of_base_le (by decide) large] at printed
        obtain ⟨head, front, isFront⟩ := List.exists_cons_of_ne_nil
          (Nat.toDigits_ne_nil (n := number / 10) (b := 10))
        rw [isFront, List.cons_append, List.cons.injEq] at printed
        obtain ⟨rfl, -⟩ := printed
        -- a number that is printed as zero only is zero, but this one is at least one
        have none : front = [] := ih (number / 10) (by omega) isFront
        have zero : number / 10 = 0 := by
          rw [← Nat.ofDigitChars_ten_toDigits (n := number / 10), isFront, none]
          rfl
        omega

theorem exists_toDigits (number : Nat) :
    ∃ head tail, Nat.toDigits 10 number = head :: tail ∧
      (∀ digit ∈ head :: tail, digit.isDigit = true) ∧ (head = '0' → tail = []) := by
  obtain ⟨head, tail, printed⟩ := List.exists_cons_of_ne_nil
    (Nat.toDigits_ne_nil (n := number) (b := 10))
  refine ⟨head, tail, printed, printed ▸ isDigit_of_mem_toDigits, ?_⟩
  rintro rfl
  exact tail_eq_nil_of_toDigits printed

end Text

namespace Yaml

open Text

section

variable {range : IntegerRange} {head : Char} {tail : List Char} {value : Int}

theorem not_sign_of_isDigit (decimal : head.isDigit = true) : head ≠ '+' ∧ head ≠ '-' := by
  constructor
  · rintro rfl
    exact absurd decimal (by decide)
  · rintro rfl
    exact absurd decimal (by decide)

theorem radixInteger?_eq_none {digits : List Char} (negative : Bool)
    (decimal : ∀ digit ∈ digits, digit.isDigit = true) :
    radixInteger? range negative digits = none := by
  have none : radix? digits = none := by
    unfold radix?
    split
    · exact absurd (decimal 'x' (by simp)) (by decide)
    · exact absurd (decimal 'o' (by simp)) (by decide)
    · exact absurd (decimal 'b' (by simp)) (by decide)
    · rfl
  rw [radixInteger?, none]
  rfl

theorem hasLeadingZero_eq_false (decimal : head.isDigit = true)
    (noZero : head = '0' → tail = []) :
    hasLeadingZero (head :: tail) = false ∧ hasLeadingZero ('-' :: head :: tail) = false := by
  obtain ⟨notPlus, notMinus⟩ := not_sign_of_isDigit decimal
  by_cases isZero : head = '0'
  · rw [isZero, noZero isZero]
    decide
  · simp [hasLeadingZero, notPlus, notMinus, isZero]

theorem integer?_of_digits (decimal : ∀ digit ∈ head :: tail, digit.isDigit = true)
    (noZero : head = '0' → tail = []) :
    (readInteger range 10 (head :: tail) = .ok value →
      integer? range (head :: tail) = some value) ∧
    (readInteger range 10 ('-' :: head :: tail) = .ok value →
      integer? range ('-' :: head :: tail) = some value) := by
  have isDigit := decimal head List.mem_cons_self
  obtain ⟨notPlus, notMinus⟩ := not_sign_of_isDigit isDigit
  obtain ⟨plain, behind⟩ := hasLeadingZero_eq_false isDigit noZero
  have noRadix : ∀ negative, radixInteger? range negative (head :: tail) = none :=
    fun negative => radixInteger?_eq_none negative decimal
  constructor
  · intro read
    simp [integer?, withoutPlus, notPlus, notMinus, noRadix, decimalInteger?, plain, read,
      Except.toOption]
  · intro read
    have noPrefix : radixInteger? range false ('-' :: head :: tail) = none := by
      simp [radixInteger?, radix?]
    simp [integer?, withoutPlus, noPrefix, noRadix, decimalInteger?, behind, read,
      Except.toOption]

end

theorem integer?_toString {range : IntegerRange} (negatives : range.low < 0)
    (zero : 0 ≤ range.high) {value : Int} (low : range.low ≤ value) (high : value ≤ range.high) :
    integer? range (toString value).toList = some value := by
  have read : readInteger range 10 (toString value).toList = .ok value :=
    (readInteger_eq_ok_iff negatives zero).mpr ⟨numeral_toString value, low, high⟩
  rw [toList_toString_int] at read ⊢
  split_ifs at read ⊢ with sign
  · obtain ⟨head, tail, printed, decimal, noZero⟩ := exists_toDigits value.toNat
    rw [printed] at read ⊢
    exact (integer?_of_digits decimal noZero).1 read
  · obtain ⟨head, tail, printed, decimal, noZero⟩ := exists_toDigits (-value).toNat
    rw [printed] at read ⊢
    exact (integer?_of_digits decimal noZero).2 read

end Yaml

end LocalRepair

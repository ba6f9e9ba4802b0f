import Mathlib
import LocalRepair.Scheme.Basic

/-!
# Numbers that texts denote

A numeral is a row of decimal digits, at least one, with or without a sign in front.  A
text is read as a number exactly if it is a numeral between blanks and the number fits
into 64 bits; there is then one such number.
-/

namespace LocalRepair

namespace Text

/-- The decimal numerals and the numbers that they denote. -/
inductive Numeral : List Char → Int → Prop where
  | unsigned {digits : List Char} (someDigit : digits ≠ [])
      (decimal : ∀ digit ∈ digits, digit.isDigit = true) :
      Numeral digits (Nat.ofDigitChars 10 digits 0 : Nat)
  | positive {digits : List Char} (someDigit : digits ≠ [])
      (decimal : ∀ digit ∈ digits, digit.isDigit = true) :
      Numeral ('+' :: digits) (Nat.ofDigitChars 10 digits 0 : Nat)
  | negative {digits : List Char} (someDigit : digits ≠ [])
      (decimal : ∀ digit ∈ digits, digit.isDigit = true) :
      Numeral ('-' :: digits) (-(Nat.ofDigitChars 10 digits 0 : Nat))

/-- A text that is a numeral for a number of 64 bits, blanks at either end aside. -/
structure Denotes (text : String) (value : Int) : Prop where
  numeral : ∃ before digits after, text.toList = before ++ digits ++ after ∧
    (∀ character ∈ before, isBlank character = true) ∧
    (∀ character ∈ after, isBlank character = true) ∧ Numeral digits value
  low : -2 ^ 63 ≤ value
  high : value < 2 ^ 63

/-! ## Numerals -/

theorem digitValue?_ten (character : Char) :
    digitValue? 10 character =
      if character.isDigit = true then some (character.toNat - '0'.toNat) else none := by
  have bounds : ('0' ≤ character ∧ character ≤ '9') ↔ character.isDigit = true := by
    simp [Char.isDigit, Char.le_def]
  unfold digitValue?
  dsimp only
  by_cases decimal : character.isDigit = true
  · have small := (Char.isDigit_iff_toNat.mp decimal).2
    rw [if_pos (bounds.mpr decimal), if_pos decimal, Option.filter_some, if_pos]
    simp only [Char.reduceToNat] at small ⊢
    exact decide_eq_true (by omega)
  · rw [if_neg (mt bounds.mp decimal), if_neg decimal]
    -- what is left are letters, whose values are at least ten
    split_ifs <;> simp

theorem le_ofDigitChars (digits : List Char) (start : Nat) :
    start ≤ Nat.ofDigitChars 10 digits start := by
  induction digits generalizing start with
  | nil => simp
  | cons head tail ih =>
      rw [Nat.ofDigitChars_cons]
      have further := ih (10 * start + (head.toNat - '0'.toNat))
      omega

/-- Digits are appended as long as the number stays in range.  It never shrinks, so the
last value decides. -/
theorem readUpward_eq_ok_iff {high : Int} {digits : List Char} {start : Nat}
    (fits : (start : Int) ≤ high) {value : Int} :
    readUpward high 10 start digits = .ok value ↔
      (∀ digit ∈ digits, digit.isDigit = true) ∧
        value = (Nat.ofDigitChars 10 digits start : Nat) ∧ value ≤ high := by
  induction digits generalizing start with
  | nil =>
      rw [readUpward, Except.ok.injEq, Nat.ofDigitChars_nil]
      constructor
      · rintro rfl
        exact ⟨by simp, rfl, fits⟩
      · rintro ⟨_, rfl, _⟩
        rfl
  | cons head tail ih =>
      rw [readUpward, digitValue?_ten, List.forall_mem_cons, Nat.ofDigitChars_cons]
      by_cases decimal : head.isDigit = true
      · let next := 10 * start + (head.toNat - '0'.toNat)
        have isNext : (start : Int) * (10 : Nat) + (head.toNat - '0'.toNat : Nat) =
            (next : Int) := by
          simp only [next]
          omega
        simp only [decimal, if_true, true_and, isNext]
        split_ifs with further
        · exact ih further
        · constructor
          · intro impossible
            cases impossible
          · rintro ⟨_, rfl, inRange⟩
            have grows : (next : Int) ≤ (Nat.ofDigitChars 10 tail next : Nat) :=
              Int.ofNat_le.mpr (le_ofDigitChars tail next)
            exact absurd (grows.trans inRange) further
      · simp [decimal]

theorem readDownward_eq_ok_iff {low start value : Int} {digits : List Char} :
    readDownward low 10 start digits = .ok value ↔
      readUpward (-low) 10 (-start) digits = .ok (-value) := by
  induction digits generalizing start with
  | nil => simp [readDownward, readUpward]
  | cons head tail ih =>
      rw [readDownward, readUpward]
      cases digitValue? 10 head with
      | none => simp
      | some digit =>
          have mirrored : -start * (10 : Nat) + (digit : Int) =
              -(start * (10 : Nat) - digit) := by ring
          simp only [mirrored, Int.neg_le_neg_iff]
          split_ifs
          · exact ih
          · simp

theorem numeral_positive_iff {digits : List Char} {value : Int} :
    Numeral ('+' :: digits) value ↔
      digits ≠ [] ∧ (∀ digit ∈ digits, digit.isDigit = true) ∧
        value = (Nat.ofDigitChars 10 digits 0 : Nat) := by
  constructor
  · intro numeral
    cases numeral with
    | unsigned _ decimal => exact absurd (decimal '+' List.mem_cons_self) (by decide)
    | positive someDigit decimal => exact ⟨someDigit, decimal, rfl⟩
  · rintro ⟨someDigit, decimal, rfl⟩
    exact .positive someDigit decimal

theorem numeral_negative_iff {digits : List Char} {value : Int} :
    Numeral ('-' :: digits) value ↔
      digits ≠ [] ∧ (∀ digit ∈ digits, digit.isDigit = true) ∧
        -value = (Nat.ofDigitChars 10 digits 0 : Nat) := by
  constructor
  · intro numeral
    cases numeral with
    | unsigned _ decimal => exact absurd (decimal '-' List.mem_cons_self) (by decide)
    | negative someDigit decimal => exact ⟨someDigit, decimal, Int.neg_neg _⟩
  · rintro ⟨someDigit, decimal, opposite⟩
    rw [← Int.neg_neg value, opposite]
    exact .negative someDigit decimal

theorem numeral_unsigned_iff {text : List Char} {value : Int}
    (noPlus : ∀ digits, text ≠ '+' :: digits) (noMinus : ∀ digits, text ≠ '-' :: digits) :
    Numeral text value ↔
      text ≠ [] ∧ (∀ digit ∈ text, digit.isDigit = true) ∧
        value = (Nat.ofDigitChars 10 text 0 : Nat) := by
  constructor
  · intro numeral
    cases numeral with
    | unsigned someDigit decimal => exact ⟨someDigit, decimal, rfl⟩
    | positive => exact absurd rfl (noPlus _)
    | negative => exact absurd rfl (noMinus _)
  · rintro ⟨someDigit, decimal, rfl⟩
    exact .unsigned someDigit decimal

/-- A text is read in a range with negative numbers exactly if it is a numeral for a
number of the range. -/
theorem readInteger_eq_ok_iff {range : IntegerRange} (negatives : range.low < 0)
    (zero : 0 ≤ range.high) {text : List Char} {value : Int} :
    readInteger range 10 text = .ok value ↔
      Numeral text value ∧ range.low ≤ value ∧ value ≤ range.high := by
  have upward : ∀ digits, readUpward range.high 10 0 digits = .ok value ↔
      (∀ digit ∈ digits, digit.isDigit = true) ∧
        value = (Nat.ofDigitChars 10 digits 0 : Nat) ∧ value ≤ range.high :=
    fun digits => readUpward_eq_ok_iff zero
  have downward : ∀ digits, readDownward range.low 10 0 digits = .ok value ↔
      (∀ digit ∈ digits, digit.isDigit = true) ∧
        -value = (Nat.ofDigitChars 10 digits 0 : Nat) ∧ -value ≤ -range.low := by
    intro digits
    rw [readDownward_eq_ok_iff, Int.neg_zero]
    have start : 0 ≤ -range.low := by omega
    exact readUpward_eq_ok_iff start
  fun_cases readInteger range 10 text with
  | case1 => simp [numeral_unsigned_iff]
  | case2 => simp [numeral_positive_iff]
  | case3 => simp [numeral_negative_iff]
  | case4 digits some =>
      rw [upward, numeral_positive_iff]
      constructor
      · rintro ⟨decimal, rfl, inRange⟩
        exact ⟨⟨some, decimal, rfl⟩, by omega, inRange⟩
      · rintro ⟨⟨_, decimal, same⟩, _, inRange⟩
        exact ⟨decimal, same, inRange⟩
  | case5 digits some =>
      rw [downward, numeral_negative_iff]
      constructor
      · rintro ⟨decimal, same, inRange⟩
        exact ⟨⟨some, decimal, same⟩, by omega, by omega⟩
      · rintro ⟨⟨_, decimal, same⟩, inRange, _⟩
        exact ⟨decimal, same, by omega⟩
  | case6 digits some noNegatives => exact absurd negatives noNegatives
  | case7 _ some _ _ noPlus noMinus =>
      rw [upward, numeral_unsigned_iff noPlus noMinus]
      constructor
      · rintro ⟨decimal, rfl, inRange⟩
        exact ⟨⟨some, decimal, rfl⟩, by omega, inRange⟩
      · rintro ⟨⟨_, decimal, same⟩, _, inRange⟩
        exact ⟨decimal, same, inRange⟩

/-! ## Blanks -/

theorem isBlank_of_isDigit {character : Char} (decimal : character.isDigit = true) :
    isBlank character = false := by
  have bounds := Char.isDigit_iff_toNat.mp decimal
  simp only [Char.reduceToNat] at bounds
  simp only [isBlank, blankRanges, List.any_cons, List.any_nil, Bool.or_eq_false_iff,
    Bool.and_eq_false_iff, decide_eq_false_iff_not, and_true]
  omega

theorem Numeral.not_blank {digits : List Char} {value : Int} (numeral : Numeral digits value) :
    digits ≠ [] ∧ ∀ character ∈ digits, isBlank character = false := by
  cases numeral with
  | unsigned someDigit decimal =>
      exact ⟨someDigit, fun character member => isBlank_of_isDigit (decimal character member)⟩
  | positive _ decimal =>
      refine ⟨List.cons_ne_nil _ _, List.forall_mem_cons.mpr ⟨by decide, ?_⟩⟩
      exact fun character member => isBlank_of_isDigit (decimal character member)
  | negative _ decimal =>
      refine ⟨List.cons_ne_nil _ _, List.forall_mem_cons.mpr ⟨by decide, ?_⟩⟩
      exact fun character member => isBlank_of_isDigit (decimal character member)

theorem exists_eq_append_trim (characters : List Char) :
    ∃ before after, characters = before ++ trim characters ++ after ∧
      (∀ character ∈ before, isBlank character = true) ∧
      ∀ character ∈ after, isBlank character = true := by
  let rest := characters.dropWhile isBlank
  have front : characters = characters.takeWhile isBlank ++ rest :=
    List.takeWhile_append_dropWhile.symm
  have back : rest = trim characters ++ (rest.reverse.takeWhile isBlank).reverse := by
    rw [trim, ← List.reverse_append, List.takeWhile_append_dropWhile, List.reverse_reverse]
  refine ⟨characters.takeWhile isBlank, (rest.reverse.takeWhile isBlank).reverse, ?_, ?_, ?_⟩
  · rw [List.append_assoc, ← back, ← front]
  · exact fun character member => List.mem_takeWhile_imp member
  · exact fun character member => List.mem_takeWhile_imp (List.mem_reverse.mp member)

theorem trim_append {before core after : List Char}
    (beforeBlank : ∀ character ∈ before, isBlank character = true)
    (afterBlank : ∀ character ∈ after, isBlank character = true) (someCore : core ≠ [])
    (notBlank : ∀ character ∈ core, isBlank character = false) :
    trim (before ++ core ++ after) = core := by
  have stops : ∀ list rest : List Char, list ≠ [] →
      (∀ character ∈ list, isBlank character = false) →
      (list ++ rest).dropWhile isBlank = list ++ rest := by
    intro list rest some legible
    obtain ⟨head, tail, rfl⟩ := List.exists_cons_of_ne_nil some
    have headLegible := legible head List.mem_cons_self
    rw [List.cons_append, List.dropWhile_cons_of_neg (by simp [headLegible])]
  have reversed := stops core.reverse [] (by simpa using someCore)
    fun character member => notBlank character (List.mem_reverse.mp member)
  rw [trim, List.append_assoc, List.dropWhile_append_of_pos beforeBlank,
    stops core after someCore notBlank, List.reverse_append, List.dropWhile_append_of_pos]
  · rw [List.append_nil] at reversed
    rw [reversed, List.reverse_reverse]
  · exact fun character member => afterBlank character (List.mem_reverse.mp member)

theorem readInteger_trim_eq_ok_iff {text : String} {value : Int} :
    readInteger .signed64 10 (trim text.toList) = .ok value ↔ Denotes text value := by
  rw [readInteger_eq_ok_iff (by decide) (by decide)]
  constructor
  · rintro ⟨numeral, low, high⟩
    obtain ⟨before, after, division, beforeBlank, afterBlank⟩ :=
      exists_eq_append_trim text.toList
    exact ⟨⟨before, _, after, division, beforeBlank, afterBlank, numeral⟩, low,
      Int.lt_add_one_iff.mpr high⟩
  · rintro ⟨⟨before, digits, after, division, beforeBlank, afterBlank, numeral⟩, low, high⟩
    obtain ⟨someDigit, notBlank⟩ := numeral.not_blank
    rw [division, trim_append beforeBlank afterBlank someDigit notBlank]
    exact ⟨numeral, low, Int.lt_add_one_iff.mp high⟩

end Text

namespace Scheme

/-- A parameter is read as the number that its text denotes. -/
theorem readParameter_eq_ok_iff {name text : String} {value : Int} :
    readParameter name text = .ok value ↔ Text.Denotes text value := by
  rw [← Text.readInteger_trim_eq_ok_iff, readParameter]
  cases Text.readInteger .signed64 10 (Text.trim text.toList) <;> simp

end Scheme

end LocalRepair

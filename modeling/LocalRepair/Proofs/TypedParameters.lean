import Mathlib
import LocalRepair.Proofs.Acceptance
import LocalRepair.Proofs.DecimalTexts

/-!
# Parameters as numbers and as texts

A scheme constructed from the texts of its parameters depends only on the numbers that
they denote, and it is the scheme that these numbers give directly; so is the refusal, if
the numbers are refused.  In a policy file it makes no difference whether a parameter is
written as an integer or as a text.
-/

namespace LocalRepair

open Outcome

namespace Scheme

/-! ## Parameters that denote numbers -/

section

variable {kind : SchemeKind} {n k subpackets : Nat} {optimization : Int} {texts : List String}

/-- Texts that denote the same numbers construct the same scheme, or are refused alike. -/
theorem construct_congr {others : List String} {values : List Int}
    (denotes : List.Forall₂ Text.Denotes texts values)
    (othersDenote : List.Forall₂ Text.Denotes others values) :
    construct kind n k subpackets optimization texts =
      construct kind n k subpackets optimization others := by
  have length : texts.length = others.length :=
    denotes.length_eq.trans othersDenote.length_eq.symm
  unfold construct
  by_cases count : others.length = kind.parameterNames.length
  · rw [length, ensure_of count, ok_bind, ok_bind,
      (readParameters_eq_ok_iff (length.trans count)).mpr denotes,
      (readParameters_eq_ok_iff count).mpr othersDenote]
  · rw [length, Error.ensure, if_neg count, error_bind, error_bind]

variable {l g eta : Nat} {approach : Approach}

/-- The numbers for parameters, by the names of these. -/
def parameterValue (l g eta : Nat) (approach : Approach) (name : String) : Int :=
  if name = "l" then l else if name = "g" then g else if name = "eta" then eta
  else approach.code

theorem readApproach_bind_layout {α : Type} (next : Layout → Except Error α) :
    (readApproach kind (parameterValue l g eta approach) >>= fun found =>
      next (kind.layout eta found)) = next (kind.layout eta approach) := by
  have known : Approach.ofCode approach.code = .ok approach := by
    cases approach <;> rfl
  cases kind <;>
    simp [readApproach, SchemeKind.parameterNames, SchemeKind.layout, parameterValue, known]

theorem construct_eq_build
    (denotes : List.Forall₂ Text.Denotes texts
      (kind.parameterNames.map (parameterValue l g eta approach))) :
    construct kind n k subpackets optimization texts =
      build (kind.layout eta approach) ⟨k, l, g⟩ n subpackets optimization := by
  have readable : Readable kind texts (parameterValue l g eta approach) := by
    refine ⟨denotes, signs_iff.mpr ⟨?_, ?_, fun _ => ?_⟩⟩ <;> simp [parameterValue]
  have isL : (parameterValue l g eta approach "l").toNat = l := rfl
  have isG : (parameterValue l g eta approach "g").toNat = g := rfl
  have isEta : (parameterValue l g eta approach "eta").toNat = eta := rfl
  rw [construct_of_readable readable, isL, isG, isEta]
  exact readApproach_bind_layout fun layout => build layout ⟨k, l, g⟩ n subpackets optimization

end

theorem denotes_of_spells {texts : List String} {numbers : List Nat}
    (spells : List.Forall₂ Text.Spells texts numbers)
    (small : ∀ number ∈ numbers, number < 2 ^ 63) :
    List.Forall₂ Text.Denotes texts (numbers.map fun number => (number : Int)) := by
  induction spells with
  | nil => exact .nil
  | cons head _ ih =>
      obtain ⟨headSmall, tailSmall⟩ := List.forall_mem_cons.mp small
      exact .cons (head.denotes headSmall) (ih tailSmall)

theorem construct_tradeoff {k l g eta : Nat} {approach : Approach} {texts : List String}
    (spells : List.Forall₂ Text.Spells texts [l, g, eta, approach.code.toNat])
    (lSmall : l < 2 ^ 63) (gSmall : g < 2 ^ 63) (etaSmall : eta < 2 ^ 63) :
    construct .tradeoff (k + l + g) k 1 (-1) texts = tradeoff k l g eta approach := by
  have codeSmall : approach.code.toNat < 2 ^ 63 := by
    cases approach <;> decide
  have denotes := denotes_of_spells spells
    (by simp only [List.forall_mem_cons]; exact ⟨lSmall, gSmall, etaSmall, codeSmall, by simp⟩)
  have values : [l, g, eta, approach.code.toNat].map (fun number => (number : Int)) =
      SchemeKind.tradeoff.parameterNames.map (parameterValue l g eta approach) := by
    cases approach <;> rfl
  rw [values] at denotes
  exact construct_eq_build denotes

theorem construct_flat {k l g : Nat} {texts : List String}
    (spells : List.Forall₂ Text.Spells texts [l, g])
    (lSmall : l < 2 ^ 63) (gSmall : g < 2 ^ 63) :
    construct .flat (k + l + g) k 1 (-1) texts = flat k l g := by
  have denotes := denotes_of_spells spells (by simpa using And.intro lSmall gSmall)
  -- whatever stands for the parameters that a flat scheme does not have
  have values : [l, g].map (fun number => (number : Int)) =
      SchemeKind.flat.parameterNames.map (parameterValue l g 0 default) := rfl
  rw [values] at denotes
  exact construct_eq_build denotes

end Scheme

namespace Policy

/-! ## Parameters in policy files -/

/-- The ways to write a number of 64 bits in a policy file: as an integer, and as a text. -/
inductive WritesNumber : Yaml.Node → Int → Prop
  | integer {digits : String} {value : Int} :
      Yaml.integer? ParameterValue.readableIntegers digits.toList = some value →
      -2 ^ 63 ≤ value → value < 2 ^ 63 → WritesNumber (.scalar digits true) value
  | text {text : String} {value : Int} :
      Text.Denotes text value → WritesNumber (.scalar text false) value

theorem integer?_of_word {word : String}
    (isWord : (Yaml.isNull word.toList || Yaml.isTruthValue word.toList) = true) :
    Yaml.integer? ParameterValue.readableIntegers word.toList = none := by
  have words : ∀ word ∈ ["", "~", "null", "Null", "NULL", "true", "True", "TRUE", "false",
      "False", "FALSE"], Yaml.integer? ParameterValue.readableIntegers word.toList = none := by
    decide
  apply words
  simpa [Yaml.isNull, Yaml.isTruthValue, or_assoc] using isWord

theorem ofNode?_of_integer {digits : String} {value : Int}
    (isInteger : Yaml.integer? ParameterValue.readableIntegers digits.toList = some value)
    (low : -2 ^ 63 ≤ value) (high : value < 2 ^ 63) :
    ParameterValue.ofNode? (.scalar digits true) = some (.integer value) := by
  have noWord : ¬(Yaml.isNull digits.toList || Yaml.isTruthValue digits.toList) = true := by
    intro isWord
    rw [integer?_of_word isWord] at isInteger
    cases isInteger
  have fits : Text.IntegerRange.signed64.low ≤ value ∧
      value ≤ Text.IntegerRange.signed64.high :=
    ⟨low, Int.lt_add_one_iff.mp high⟩
  rw [ParameterValue.ofNode?, ParameterValue.ofPlain?, if_neg noWord]
  simp only [isInteger, ParameterValue.ofInteger?, if_pos fits]

theorem writesNumber_toString {value : Int} (low : -2 ^ 63 ≤ value) (high : value < 2 ^ 63)
    (isPlain : Bool) : WritesNumber (.scalar (toString value) isPlain) value := by
  cases isPlain with
  | false => exact .text (Text.denotes_toString low high)
  | true =>
      have lowest : ParameterValue.readableIntegers.low ≤ -2 ^ 63 := by decide
      have highest : 2 ^ 63 ≤ ParameterValue.readableIntegers.high := by decide
      exact .integer (Yaml.integer?_toString (by decide) (by decide) (lowest.trans low)
        (high.le.trans highest)) low high

theorem WritesNumber.exists_value {node : Yaml.Node} {number : Int}
    (writes : WritesNumber node number) :
    ∃ value, ParameterValue.ofNode? node = some value ∧ Text.Denotes value.toText number := by
  cases writes with
  | integer isInteger low high =>
      exact ⟨_, ofNode?_of_integer isInteger low high, Text.denotes_toString low high⟩
  | text denotes => exact ⟨_, rfl, denotes⟩

theorem exists_values {nodes : List Yaml.Node} {numbers : List Int}
    (write : List.Forall₂ WritesNumber nodes numbers) :
    ∃ values, nodes.mapM ParameterValue.ofNode? = some values ∧
      List.Forall₂ Text.Denotes (values.map ParameterValue.toText) numbers := by
  induction write with
  | nil => exact ⟨[], rfl, .nil⟩
  | cons head _ ih =>
      obtain ⟨value, isValue, denotes⟩ := head.exists_value
      obtain ⟨values, areValues, denote⟩ := ih
      refine ⟨value :: values, ?_, .cons denotes denote⟩
      rw [List.mapM_cons, isValue, areValues]
      rfl

/-- A list of numbers, written in either way, is read as texts that denote them. -/
theorem exists_texts {nodes : List Yaml.Node} {numbers : List Int}
    (write : List.Forall₂ WritesNumber nodes numbers) :
    ∃ texts, parameters? (.sequence nodes) = some texts ∧
      List.Forall₂ Text.Denotes texts numbers := by
  obtain ⟨values, areValues, denote⟩ := exists_values write
  refine ⟨values.map ParameterValue.toText, ?_, denote⟩
  rw [parameters?, items?, Option.bind_eq_bind, Option.bind_some, areValues]
  rfl

/-- A policy in a file, with other entries around the one for its parameters. -/
def entryWith (front back : List (Yaml.Node × Yaml.Node)) (isPlain : Bool)
    (items : List Yaml.Node) : Yaml.Node :=
  .mapping (front ++ (.scalar "param" isPlain, .sequence items) :: back)

section

variable {α : Type} {front back : List (String × Yaml.Node)} {value : Yaml.Node} {name : String}
  {read : Yaml.Node → Option α}

theorem entry?_of_absent {entries : List (String × Yaml.Node)}
    (absent : entries.filter (·.1 = name) = []) : entry? entries name read = some none := by
  unfold entry?
  rw [absent]

theorem entry?_of_ne (different : "param" ≠ name) :
    entry? (front ++ ("param", value) :: back) name read = entry? (front ++ back) name read := by
  unfold entry?
  rw [List.filter_append, List.filter_append,
    List.filter_cons_of_neg (by simpa using different)]

theorem entry?_param_of_alone (alone : (front ++ back).filter (·.1 = "param") = []) :
    entry? (front ++ ("param", value) :: back) "param" read = (read value).map some := by
  rw [List.filter_append, List.append_eq_nil_iff] at alone
  unfold entry?
  rw [List.filter_append, List.filter_cons_of_pos (by simp), alone.1, alone.2]
  rfl

theorem entry?_param_of_repeated (repeated : (front ++ back).filter (·.1 = "param") ≠ []) :
    entry? (front ++ ("param", value) :: back) "param" read = none := by
  have many : 2 ≤ ((front ++ ("param", value) :: back).filter (·.1 = "param")).length := by
    rw [List.filter_append, List.filter_cons_of_pos (by simp), List.length_append,
      List.length_cons]
    rw [List.filter_append, ← List.length_pos_iff, List.length_append] at repeated
    omega
  unfold entry?
  split
  · next none => simp [none] at many
  · next one => simp [one] at many
  · rfl

end

theorem entries?_append (front back : List (Yaml.Node × Yaml.Node)) :
    entries? (.mapping (front ++ back)) = (do
      let before ← entries? (.mapping front)
      let after ← entries? (.mapping back)
      some (before ++ after)) := by
  simp only [entries?, List.mapM_append]
  rfl

theorem entries?_cons (name : String) (isPlain : Bool) (value : Yaml.Node)
    (back : List (Yaml.Node × Yaml.Node)) :
    entries? (.mapping ((.scalar name isPlain, value) :: back)) =
      (entries? (.mapping back)).map ((name, value) :: ·) := by
  simp only [entries?, List.mapM_cons]
  cases back.mapM (m := Option) _ <;> rfl

theorem entries?_entryWith (front back : List (Yaml.Node × Yaml.Node)) (isPlain : Bool)
    (items : List Yaml.Node) :
    entries? (entryWith front back isPlain items) = (do
      let before ← entries? (.mapping front)
      let after ← entries? (.mapping back)
      some (before ++ ("param", .sequence items) :: after)) := by
  rw [entryWith, entries?_append, entries?_cons]
  cases entries? (.mapping back) <;> rfl

/-- The parameters of a policy are those that its entry for them lists, and the rest of it
does not depend on them. -/
theorem ofNode?_entryWith (front back : List (Yaml.Node × Yaml.Node)) (isPlain : Bool) :
    (∀ items, ofNode? (entryWith front back isPlain items) = none) ∨
      ∀ items, ofNode? (entryWith front back isPlain items) = (do
        let policy ← ofNode? (.mapping (front ++ back))
        let parameters ← parameters? (.sequence items)
        some { policy with parameters }) := by
  rcases isBefore : entries? (.mapping front) with _ | before
  · left
    intro items
    rw [ofNode?, entries?_entryWith, isBefore]
    rfl
  rcases isAfter : entries? (.mapping back) with _ | after
  · left
    intro items
    rw [ofNode?, entries?_entryWith, isBefore, isAfter]
    rfl
  have whole : ∀ items, entries? (entryWith front back isPlain items) =
      some (before ++ ("param", .sequence items) :: after) := by
    intro items
    rw [entries?_entryWith, isBefore, isAfter]
    rfl
  have others : entries? (.mapping (front ++ back)) = some (before ++ after) := by
    rw [entries?_append, isBefore, isAfter]
    rfl
  by_cases alone : (before ++ after).filter (·.1 = "param") = []
  · right
    intro items
    simp [ofNode?, whole, others, entry?_of_absent alone, entry?_param_of_alone alone,
      entry?_of_ne, Option.bind_assoc, Option.bind_map]
  · left
    intro items
    simp only [ofNode?, whole, entry?_param_of_repeated alone, Option.bind_eq_bind,
      Option.bind_some, Option.bind_none, Option.bind_fun_none]

theorem createScheme_congr {front back : List (Yaml.Node × Yaml.Node)} {isPlain : Bool}
    {items others : List Yaml.Node} {values : List Int}
    (write : List.Forall₂ WritesNumber items values)
    (othersWrite : List.Forall₂ WritesNumber others values) :
    (ofNode? (entryWith front back isPlain items)).map createScheme =
      (ofNode? (entryWith front back isPlain others)).map createScheme := by
  obtain ⟨texts, areTexts, denote⟩ := exists_texts write
  obtain ⟨otherTexts, areOtherTexts, othersDenote⟩ := exists_texts othersWrite
  rcases ofNode?_entryWith front back isPlain with unread | read
  · rw [unread, unread]
  · rw [read, read, areTexts, areOtherTexts]
    cases ofNode? (.mapping (front ++ back)) with
    | none => rfl
    | some policy =>
        refine congrArg some (bind_congr fun kind => ?_)
        exact Scheme.construct_congr denote othersDenote

end Policy

/-- A scheme constructed from texts that spell its parameters is the scheme that the numbers
give, and is refused exactly as these are; whether a policy in a file writes its parameters
as integers or as texts makes no difference to the scheme. -/
theorem construct_texts_eq_numbers :
    (∀ (k l g eta : Nat) (approach : Approach) (texts : List String),
      l < 2 ^ 63 → g < 2 ^ 63 → eta < 2 ^ 63 →
      List.Forall₂ Text.Spells texts [l, g, eta, approach.code.toNat] →
      Scheme.construct .tradeoff (k + l + g) k 1 (-1) texts =
        Scheme.tradeoff k l g eta approach) ∧
    (∀ (k l g : Nat) (texts : List String), l < 2 ^ 63 → g < 2 ^ 63 →
      List.Forall₂ Text.Spells texts [l, g] →
      Scheme.construct .flat (k + l + g) k 1 (-1) texts = Scheme.flat k l g) ∧
    (∀ (value : Int) (isPlain : Bool), -2 ^ 63 ≤ value → value < 2 ^ 63 →
      Policy.WritesNumber (.scalar (toString value) isPlain) value) ∧
    ∀ (front back : List (Yaml.Node × Yaml.Node)) (isPlain : Bool)
      (integers texts : List Yaml.Node) (values : List Int),
      List.Forall₂ Policy.WritesNumber integers values →
      List.Forall₂ Policy.WritesNumber texts values →
      (Policy.ofNode? (Policy.entryWith front back isPlain integers)).map Policy.createScheme =
        (Policy.ofNode? (Policy.entryWith front back isPlain texts)).map Policy.createScheme := by
  refine ⟨?_, ?_, ?_, ?_⟩
  · intro k l g eta approach texts lSmall gSmall etaSmall spells
    exact Scheme.construct_tradeoff spells lSmall gSmall etaSmall
  · intro k l g texts lSmall gSmall spells
    exact Scheme.construct_flat spells lSmall gSmall
  · intro value isPlain low high
    exact Policy.writesNumber_toString low high isPlain
  · intro front back isPlain integers texts values integersWrite textsWrite
    exact Policy.createScheme_congr integersWrite textsWrite

/-- Signs, leading zeros and blanks in the parameters of a scheme; a flat shape without global
parities, refused either way; a policy with integers for parameters, one of them in radix
sixteen, and one with texts. -/
theorem construct_texts_eq_numbers_spelled :
    Scheme.construct .tradeoff 15 9 1 (-1) ["+3", " 03", "1\n", "1"] =
      Scheme.tradeoff 9 3 3 1 .maintenance ∧
    Scheme.construct .flat 7 4 1 (-1) ["3", "0"] = Scheme.flat 4 3 0 ∧
    (Scheme.flat 4 3 0).toOption = none ∧
    ∃ integers texts : Yaml.Node,
      Policy.ofNode? integers = some ⟨"a", "flat", 8, 4, 1, -1, ["2", "2"]⟩ ∧
      Policy.ofNode? texts = some ⟨"a", "flat", 8, 4, 1, -1, ["02", " +2"]⟩ ∧
      (Policy.ofNode? integers).map Policy.createScheme =
        (Policy.ofNode? texts).map Policy.createScheme := by
  obtain ⟨tradeoff, flat, writes, policies⟩ := construct_texts_eq_numbers
  have plain : ∀ number, Text.Spells (toString number) number := by
    intro number
    exact ⟨[], [], 0, [], by simp, by simp, by simp, .inl rfl⟩
  have three : Text.Spells "+3" 3 := ⟨[], ['+'], 0, [], rfl, by simp, by simp, .inr rfl⟩
  have blank : Text.Spells " 03" 3 :=
    ⟨[' '], [], 1, [], rfl, List.forall_mem_singleton.mpr rfl, by simp, .inl rfl⟩
  have line : Text.Spells "1\n" 1 :=
    ⟨[], [], 0, ['\n'], rfl, by simp, List.forall_mem_singleton.mpr rfl, .inl rfl⟩
  refine ⟨?_, ?_, rfl, ?_⟩
  · exact tradeoff 9 3 3 1 .maintenance _ (by decide) (by decide) (by decide)
      (.cons three (.cons blank (.cons line (.cons (plain 1) .nil))))
  · exact flat 4 3 0 _ (by decide) (by decide) (.cons (plain 3) (.cons (plain 0) .nil))
  · have radix : Policy.WritesNumber (.scalar "0x2" true) 2 :=
      .integer (by decide) (by decide) (by decide)
    have zero : Policy.WritesNumber (.scalar "02" false) 2 :=
      .text (Text.readInteger_trim_eq_ok_iff.mp (by decide))
    have sign : Policy.WritesNumber (.scalar " +2" false) 2 :=
      .text (Text.readInteger_trim_eq_ok_iff.mp (by decide))
    refine ⟨_, _, ?_, ?_, policies
      [(.scalar "id" true, .scalar "a" true), (.scalar "classname" true, .scalar "flat" true),
        (.scalar "n" true, .scalar "8" true)]
      [(.scalar "k" true, .scalar "4" true)] true _ _ [2, 2]
      (.cons radix (.cons (writes 2 true (by decide) (by decide)) .nil))
      (.cons zero (.cons sign .nil))⟩
    · decide
    · decide

end LocalRepair

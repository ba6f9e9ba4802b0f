import Mathlib
import LocalRepair.Recovery.System
import LocalRepair.Proofs.Construction
import LocalRepair.Proofs.NodeValue

/-!
# Equations of a recovery system

Every parity outside a domain relates its surviving blocks to the data blocks that
the domain takes out.  The relation holds of all codewords, whatever the domain,
and the equations of a system are relations of this kind.
-/

namespace LocalRepair

section

variable {α : Type}

theorem sum_filter_add_sum_filter (property : α → Bool) (value : α → GF256) (list : List α) :
    ((list.filter property).map value).sum +
      ((list.filter fun item => !property item).map value).sum = (list.map value).sum := by
  rw [← List.sum_append, ← List.map_append]
  exact ((List.filter_append_perm property list).map value).sum_eq

theorem sum_map_ite (property : α → Prop) [DecidablePred property] (value : α → GF256)
    (list : List α) :
    (list.map fun item => if property item then value item else 0).sum =
      ((list.filter (property ·)).map value).sum := by
  induction list with
  | nil => rfl
  | cons head tail ih =>
      by_cases holds : property head
      · simp [holds, ih]
      · simp [holds, ih]

end

namespace Scheme

variable {scheme : Scheme} {domain : List Nat}

theorem mem_lostData {block : Nat} :
    block ∈ scheme.lostData domain ↔ block < scheme.k ∧ block ∈ domain := by
  simp [lostData]

theorem mem_survivingData {block : Nat} :
    block ∈ scheme.survivingData domain ↔ block < scheme.k ∧ block ∉ domain := by
  simp [survivingData]

theorem nodup_lostData : (scheme.lostData domain).Nodup :=
  List.nodup_range.filter _

theorem sum_lostData_add_sum_survivingData (scheme : Scheme) (domain : List Nat)
    (value : Nat → GF256) :
    ((scheme.lostData domain).map value).sum +
      ((scheme.survivingData domain).map value).sum =
        ((List.range scheme.k).map value).sum := by
  have sums := sum_filter_add_sum_filter (fun block => decide (block ∈ domain)) value
    (List.range scheme.k)
  rw [lostData, survivingData, ← sums]
  congr 3
  apply List.filter_congr
  intro block _
  simp

/-- A sum of surviving blocks that equals, in every codeword, the sum of the lost
data with the coefficients of a parity. -/
structure Relates (scheme : Scheme) (domain : List Nat) (parity : Nat) (equation : Equation) :
    Prop where
  arity : equation.sources.length = equation.coefficients.length
  reads : equation.sources ≠ []
  survive : ∀ source ∈ equation.sources, source < scheme.n ∧ source ∉ domain
  unknowns : equation.unknowns =
    (scheme.lostData domain).map (scheme.shape.coefficient parity)
  balanced : ∀ value, scheme.shape.Codeword value →
    weightedSum equation.sources equation.coefficients value =
      weightedSum (scheme.lostData domain) equation.unknowns value

/-- The equation that a global parity gives. -/
def parityEquation (scheme : Scheme) (domain : List Nat) (parity : Nat) : Equation where
  sources := scheme.survivingData domain ++ [parity]
  coefficients := (scheme.survivingData domain).map (scheme.shape.coefficient parity) ++ [1]
  unknowns := (scheme.lostData domain).map (scheme.shape.coefficient parity)

theorem Sound.globalEquation_eq (sound : scheme.Sound) {parity : Nat}
    (inside : parity < scheme.n) :
    scheme.globalEquation scheme.generator domain parity =
      .ok (scheme.parityEquation domain parity) := by
  have survivors := sound.generates.gather_eq inside
    fun col (member : col ∈ scheme.survivingData domain) => (mem_survivingData.mp member).1
  have lost := sound.generates.gather_eq inside
    fun col (member : col ∈ scheme.lostData domain) => (mem_lostData.mp member).1
  rw [globalEquation, survivors, Outcome.ok_bind, lost, Outcome.ok_bind, Outcome.pure_eq_ok]
  rfl

private theorem add_eq_of_eq_add {total lost surviving : GF256}
    (split : lost + surviving = total) : surviving + total = lost := by
  rw [← split, add_comm lost, ← add_assoc, GF256.add_self, zero_add]

theorem relates_parityEquation {parity : Nat}
    (isGlobal : parity ∈ scheme.survivingGlobals domain) :
    scheme.Relates domain parity (scheme.parityEquation domain parity) := by
  rw [survivingGlobals, List.mem_filter, Shape.mem_globalParities, decide_eq_true_eq] at isGlobal
  obtain ⟨⟨_, inside⟩, alive⟩ := isGlobal
  have dataInside := scheme.shape.k_le_n
  constructor
  · simp [parityEquation]
  · simp [parityEquation]
  · intro source member
    rcases List.mem_append.mp member with data | last
    · obtain ⟨small, survives⟩ := mem_survivingData.mp data
      exact ⟨Nat.lt_of_lt_of_le small dataInside, survives⟩
    · rw [List.mem_singleton.mp last]
      exact ⟨inside, alive⟩
  · rfl
  · intro value codeword
    have split := sum_lostData_add_sum_survivingData scheme domain
      fun col => scheme.shape.coefficient parity col * value col
    rw [parityEquation, weightedSum_append (by simp), weightedSum_map, weightedSum_map]
    simp only [weightedSum, List.zip_cons_cons, List.zip_nil_right, List.map_cons, List.map_nil,
      List.sum_singleton, one_mul]
    rw [codeword parity inside]
    exact add_eq_of_eq_add split

private theorem sum_surviving_group (sound : scheme.Sound) {group : Nat}
    (inside : group < scheme.shape.l) (value : Nat → GF256) :
    (((scheme.shape.groupData group).filter (· ∉ domain)).map value).sum =
      ((scheme.survivingData domain).map fun col =>
        if col / scheme.shape.b = group then value col else 0).sum := by
  have groupDistinct : (scheme.shape.groupData group).Nodup := List.nodup_range'
  have survivorsDistinct : (scheme.survivingData domain).Nodup := List.nodup_range.filter _
  rw [sum_map_ite]
  apply List.Perm.sum_eq
  apply List.Perm.map
  rw [List.perm_ext_iff_of_nodup (groupDistinct.filter _) (survivorsDistinct.filter _)]
  intro block
  rw [List.mem_filter, List.mem_filter, mem_survivingData, sound.shape.mem_groupData,
    decide_eq_true_eq, decide_eq_true_eq]
  constructor
  · rintro ⟨inGroup, survives⟩
    exact ⟨⟨sound.shape.groupData_inside inside (sound.shape.mem_groupData.mpr inGroup),
      survives⟩, inGroup⟩
  · rintro ⟨⟨_, survives⟩, inGroup⟩
    exact ⟨inGroup, survives⟩

theorem Sound.relates_localEquation (sound : scheme.Sound) {group : Nat}
    (inside : group < scheme.shape.l) (alive : scheme.shape.localParity group ∉ domain) :
    scheme.Relates domain (scheme.shape.localParity group)
      (scheme.localEquation domain group) := by
  have dataInside := scheme.shape.k_le_n
  have parityInside : scheme.shape.localParity group < scheme.shape.n := by
    rw [Shape.localParity, Shape.n]
    omega
  have unknowns : (scheme.localEquation domain group).unknowns =
      (scheme.lostData domain).map
        (scheme.shape.coefficient (scheme.shape.localParity group)) := by
    apply List.map_congr_left
    intro col _
    rw [Shape.coefficient_localParity inside]
  refine ⟨?_, ?_, ?_, unknowns, ?_⟩
  · simp [localEquation]
  · simp [localEquation]
  · intro source member
    rcases List.mem_append.mp member with data | last
    · rw [List.mem_filter, decide_eq_true_eq] at data
      exact ⟨Nat.lt_of_lt_of_le (sound.shape.groupData_inside inside data.1) dataInside,
        data.2⟩
    · rw [List.mem_singleton.mp last]
      exact ⟨parityInside, alive⟩
  · intro value codeword
    have split := sum_lostData_add_sum_survivingData scheme domain
      fun col => if col / scheme.shape.b = group then value col else 0
    rw [unknowns, weightedSum_map, localEquation, weightedSum_map]
    simp only [one_mul, List.map_append, List.map_singleton, List.sum_append,
      List.sum_singleton]
    rw [sum_surviving_group sound inside, codeword.localParity inside]
    rw [← k, add_eq_of_eq_add split]
    congr 1
    apply List.map_congr_left
    intro col _
    rw [Shape.coefficient_localParity inside]
    split
    · rw [one_mul]
    · rw [zero_mul]

end Scheme

end LocalRepair

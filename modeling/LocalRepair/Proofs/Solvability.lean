import Mathlib
import LocalRepair.Recovery.Domain
import LocalRepair.Proofs.Elimination
import LocalRepair.Proofs.SystemEquations

/-!
# Solving recovery systems

The matrix of a recovery system can be inverted exactly if no data but zero, lost
blocks aside, makes all the parities of the system zero.
-/

namespace LocalRepair

theorem DenseMatrix.rowProduct_flatten {rows : List (List GF256)} {indices : List Nat}
    (lengths : ∀ entries ∈ rows, entries.length = indices.length) (value : Nat → GF256)
    {row : Nat} (inside : row < rows.length) :
    rowProduct ⟨rows.length, indices.length, rows.flatten.toArray⟩ row
        (fun col => value (indices.getD col 0)) = weightedSum indices rows[row] value := by
  have rowLength := lengths rows[row] (List.getElem_mem inside)
  rw [weightedSum_eq_sum_range rowLength.symm, rowProduct]
  apply Finset.sum_congr rfl
  intro col member
  rw [get_flatten lengths (Finset.mem_range.mp member)]
  simp [inside]

theorem exists_values_of_vector {indices : List Nat} (distinct : indices.Nodup)
    (vector : Nat → GF256) :
    ∃ value : Nat → GF256, (∀ index, index ∉ indices → value index = 0) ∧
      ∀ position < indices.length, value (indices.getD position 0) = vector position := by
  refine ⟨fun index => if index ∈ indices then vector (indices.idxOf index) else 0, ?_, ?_⟩
  · exact fun index outside => if_neg outside
  · intro position inside
    have member := List.getElem_mem inside
    dsimp only
    rw [List.getD_eq_getElem _ _ inside, if_pos member, distinct.idxOf_getElem position inside]

namespace Scheme

variable {scheme : Scheme} {domain : List Nat}

/-- The parities that give the equations of a domain. -/
def usedParities (scheme : Scheme) (domain : List Nat) : List Nat :=
  (scheme.survivingGlobals domain).take
      (scheme.demand domain (List.range scheme.shape.l)) ++
    ((List.range scheme.shape.l).filter (scheme.keepsParity domain)).map
      scheme.shape.localParity

/-- A system for a domain: one equation for each lost data block, and at least one
for each parity used. -/
structure SystemOf (scheme : Scheme) (domain : List Nat) (system : RecoverySystem) :
    Prop where
  lost_eq : system.lost = scheme.lostData domain
  length_eq : system.equations.length = (scheme.lostData domain).length
  relates : ∀ equation ∈ system.equations,
    ∃ parity ∈ scheme.usedParities domain, scheme.Relates domain parity equation
  complete : ∀ parity ∈ scheme.usedParities domain,
    ∃ equation ∈ system.equations, scheme.Relates domain parity equation

theorem lt_of_mem_survivingGlobals {parity : Nat}
    (member : parity ∈ scheme.survivingGlobals domain) : parity < scheme.n :=
  (Shape.mem_globalParities.mp (List.mem_filter.mp member).1).2

theorem nodup_survivingGlobals : (scheme.survivingGlobals domain).Nodup := by
  have distinct : scheme.shape.globalParities.Nodup := List.nodup_range'
  exact distinct.filter _

/-- Enough global parities survive for all local groups. -/
def Supplied (scheme : Scheme) (domain : List Nat) : Prop :=
  scheme.demand domain (List.range scheme.shape.l) ≤ (scheme.survivingGlobals domain).length

private theorem Sound.relates_equations (sound : scheme.Sound) {equations : List Equation}
    (permutation : equations.Perm
      (((scheme.survivingGlobals domain).take
          (scheme.demand domain (List.range scheme.shape.l))).map
            (scheme.parityEquation domain) ++
        ((List.range scheme.shape.l).filter (scheme.keepsParity domain)).map
          (scheme.localEquation domain)))
    (balanced : equations.length = (scheme.lostData domain).length) :
    scheme.SystemOf domain ⟨scheme.lostData domain, equations⟩ := by
  have fromGlobal : ∀ parity ∈ (scheme.survivingGlobals domain).take
      (scheme.demand domain (List.range scheme.shape.l)),
        scheme.Relates domain parity (scheme.parityEquation domain parity) :=
    fun parity member => relates_parityEquation (List.mem_of_mem_take member)
  have fromLocal : ∀ group ∈ (List.range scheme.shape.l).filter (scheme.keepsParity domain),
      scheme.Relates domain (scheme.shape.localParity group)
        (scheme.localEquation domain group) := by
    intro group member
    obtain ⟨inRange, keeps⟩ := List.mem_filter.mp member
    have inside := List.mem_range.mp inRange
    exact sound.relates_localEquation inside ((keepsParity_iff inside).mp keeps).2
  constructor
  · rfl
  · exact balanced
  · intro equation member
    rcases List.mem_append.mp (permutation.mem_iff.mp member) with isGlobal | isLocal
    · obtain ⟨parity, parityMember, rfl⟩ := List.mem_map.mp isGlobal
      exact ⟨parity, List.mem_append_left _ parityMember, fromGlobal parity parityMember⟩
    · obtain ⟨group, groupMember, rfl⟩ := List.mem_map.mp isLocal
      exact ⟨_, List.mem_append_right _ (List.mem_map_of_mem groupMember),
        fromLocal group groupMember⟩
  · intro parity member
    rcases List.mem_append.mp member with isGlobal | isLocal
    · exact ⟨_, permutation.mem_iff.mpr (List.mem_append_left _ (List.mem_map_of_mem isGlobal)),
        fromGlobal parity isGlobal⟩
    · obtain ⟨group, groupMember, rfl⟩ := List.mem_map.mp isLocal
      exact ⟨_, permutation.mem_iff.mpr
        (List.mem_append_right _ (List.mem_map_of_mem groupMember)), fromLocal group groupMember⟩

/-- Enough global parities and no repeated entry give a system.  A repeated entry
brings an equation too many, and without enough global parities some group finds too
few of them. -/
theorem Sound.recoverySystem_cases (sound : scheme.Sound) (domain : List Nat) :
    (scheme.Supplied domain ∧ scheme.repeatedEntries domain = 0 ∧
        ∃ system, scheme.recoverySystem domain = .ok system ∧ scheme.SystemOf domain system) ∨
      (scheme.Supplied domain ∧ scheme.repeatedEntries domain ≠ 0 ∧
        scheme.recoverySystem domain = .error (.recovery (.unbalanced domain
          ((scheme.lostData domain).length + scheme.repeatedEntries domain)
          (scheme.lostData domain).length))) ∨
      (¬scheme.Supplied domain ∧ ∃ group, scheme.recoverySystem domain =
        .error (.recovery (.shortOfGlobals group scheme.shape.g domain))) := by
  have globalsInside := fun parity (member : parity ∈ scheme.survivingGlobals domain) =>
    lt_of_mem_survivingGlobals member
  rw [sound.recoverySystem_eq]
  dsimp only
  by_cases supplied : scheme.Supplied domain
  · obtain ⟨equations, equationsOk, permutation⟩ :=
      sound.allEquations_eq_ok globalsInside supplied
    have count : equations.length =
        (scheme.lostData domain).length + scheme.repeatedEntries domain := by
      rw [permutation.length_eq, List.length_append, List.length_map, List.length_map,
        List.length_take, Nat.min_eq_left supplied]
      exact sound.demand_add_length_keepsParity
    rw [equationsOk, Outcome.ok_bind]
    by_cases none : scheme.repeatedEntries domain = 0
    · have balanced : equations.length = (scheme.lostData domain).length := by
        rw [count, none, Nat.add_zero]
      rw [Outcome.ensure_of balanced, Outcome.ok_bind, Outcome.pure_eq_ok]
      exact .inl ⟨supplied, none, _, rfl, sound.relates_equations permutation balanced⟩
    · have surplus : ¬equations.length = (scheme.lostData domain).length := by omega
      rw [Error.ensure, if_neg surplus, count]
      exact .inr (.inl ⟨supplied, none, rfl⟩)
  · obtain ⟨group, refused⟩ :=
      sound.allEquations_eq_error globalsInside (Nat.lt_of_not_le supplied)
    rw [refused]
    exact .inr (.inr ⟨supplied, group, rfl⟩)

/-- Whatever the domain, a system that is returned belongs to it. -/
theorem Sound.systemOf_recoverySystem (sound : scheme.Sound) {system : RecoverySystem}
    (success : scheme.recoverySystem domain = .ok system) : scheme.SystemOf domain system := by
  rcases sound.recoverySystem_cases domain with
    ⟨_, _, found, foundOk, systemOf⟩ | ⟨_, _, refused⟩ | ⟨_, _, refused⟩
  · rw [success, Except.ok.injEq] at foundOk
    exact foundOk ▸ systemOf
  · rw [success] at refused
    cases refused
  · rw [success] at refused
    cases refused

/-- A domain that repeats no block has a system if enough global parities survive. -/
theorem Sound.exists_system (sound : scheme.Sound) (distinct : domain.Nodup)
    (supplied : scheme.Supplied domain) :
    ∃ system, scheme.recoverySystem domain = .ok system := by
  have none : scheme.repeatedEntries domain = 0 :=
    repeatedEntries_eq_zero_iff.mpr fun _ _ => distinct.filter _
  rcases sound.recoverySystem_cases domain with
    ⟨_, _, system, systemOk, _⟩ | ⟨_, repeated, _⟩ | ⟨short, _⟩
  · exact ⟨system, systemOk⟩
  · exact absurd none repeated
  · exact absurd supplied short

/-- Apart from zero, no data on the lost blocks makes all used parities zero. -/
def Determined (scheme : Scheme) (domain : List Nat) : Prop :=
  ∀ data : Nat → GF256, (∀ block < scheme.k, block ∉ domain → data block = 0) →
    (∀ parity ∈ scheme.usedParities domain,
      ((List.range scheme.k).map fun col =>
        scheme.shape.coefficient parity col * data col).sum = 0) →
    ∀ block < scheme.k, data block = 0

theorem Relates.weightedSum_unknowns {parity : Nat} {equation : Equation}
    (relates : scheme.Relates domain parity equation) {data : Nat → GF256}
    (supported : ∀ block < scheme.k, block ∉ domain → data block = 0) :
    weightedSum (scheme.lostData domain) equation.unknowns data =
      ((List.range scheme.k).map fun col =>
        scheme.shape.coefficient parity col * data col).sum := by
  have absent : ((scheme.survivingData domain).map fun col =>
      scheme.shape.coefficient parity col * data col).sum = 0 := by
    apply List.sum_eq_zero
    intro term member
    obtain ⟨col, colMember, rfl⟩ := List.mem_map.mp member
    obtain ⟨inside, survives⟩ := mem_survivingData.mp colMember
    rw [supported col inside survives, mul_zero]
  rw [relates.unknowns, weightedSum_map,
    ← sum_lostData_add_sum_survivingData scheme domain, absent, add_zero]

theorem SystemOf.matrix {system : RecoverySystem} (systemOf : scheme.SystemOf domain system) :
    ∃ matrix, system.matrix = .ok matrix ∧
      matrix.Square (scheme.lostData domain).length ∧
      ∀ value : Nat → GF256, ∀ row (inside : row < system.equations.length),
        matrix.rowProduct row (fun col => value ((scheme.lostData domain).getD col 0)) =
          weightedSum (scheme.lostData domain) system.equations[row].unknowns value := by
  let size := (scheme.lostData domain).length
  have lengths : ∀ entries ∈ system.equations.map Equation.unknowns, entries.length = size := by
    intro entries member
    obtain ⟨equation, equationMember, rfl⟩ := List.mem_map.mp member
    obtain ⟨parity, _, relates⟩ := systemOf.relates equation equationMember
    rw [relates.unknowns, List.length_map]
  have square : (system.equations.map Equation.unknowns).length = size := by
    rw [List.length_map]
    exact systemOf.length_eq
  have stored := DenseMatrix.ofRows?_eq_some square lengths
  refine ⟨_, by rw [RecoverySystem.matrix, stored], ⟨?_, square, rfl⟩, ?_⟩
  · exact DenseMatrix.wellFormed_flatten lengths
  · intro value row inside
    have product := DenseMatrix.rowProduct_flatten lengths value
      (by rw [List.length_map]; exact inside)
    rw [product, List.getElem_map]

/-- A matrix that expresses the lost data by the values of the equations. -/
structure Solves (scheme : Scheme) (domain : List Nat) (system : RecoverySystem)
    (inverse : DenseMatrix) : Prop where
  square : inverse.Square (scheme.lostData domain).length
  expresses : ∀ value image : Nat → GF256,
    (∀ row (inside : row < system.equations.length),
      weightedSum (scheme.lostData domain) system.equations[row].unknowns value =
        image row) →
    ∀ position < (scheme.lostData domain).length,
      value ((scheme.lostData domain).getD position 0) = inverse.rowProduct position image

theorem SystemOf.determined_of_solves {system : RecoverySystem}
    (systemOf : scheme.SystemOf domain system) {inverse : DenseMatrix}
    (solves : scheme.Solves domain system inverse) : scheme.Determined domain := by
  intro data supported vanish block inside
  by_cases lost : block ∈ domain
  · obtain ⟨position, positionInside, rfl⟩ :=
      List.mem_iff_getElem.mp (mem_lostData.mpr ⟨inside, lost⟩)
    have zeros : ∀ row (rowInside : row < system.equations.length),
        weightedSum (scheme.lostData domain) system.equations[row].unknowns data =
          (0 : Nat → GF256) row := by
      intro row rowInside
      obtain ⟨parity, used, relates⟩ := systemOf.relates _ (List.getElem_mem rowInside)
      rw [relates.weightedSum_unknowns supported, vanish parity used]
      rfl
    have value := solves.expresses data 0 zeros position positionInside
    rw [List.getD_eq_getElem _ _ positionInside] at value
    rw [value]
    exact DenseMatrix.rowProduct_zero fun _ _ => rfl
  · exact supported block inside lost

theorem exists_data_of_vector (scheme : Scheme) (domain : List Nat) (vector : Nat → GF256) :
    ∃ data : Nat → GF256, (∀ block < scheme.k, block ∉ domain → data block = 0) ∧
      ∀ col < (scheme.lostData domain).length,
        data ((scheme.lostData domain).getD col 0) = vector col := by
  obtain ⟨data, supported, reads⟩ := exists_values_of_vector nodup_lostData vector
  refine ⟨data, fun block _ survives => supported block fun lost => ?_, reads⟩
  exact survives (mem_lostData.mp lost).2

/-- Either the system is solved by an inverse, or it is singular. -/
theorem SystemOf.invert_cases {system : RecoverySystem}
    (systemOf : scheme.SystemOf domain system) :
    (∃ inverse, invertSystem domain system = .ok inverse ∧
      scheme.Solves domain system inverse) ∧ scheme.Determined domain ∨
    invertSystem domain system =
        .error (.recovery (.singular domain (scheme.lostData domain).length)) ∧
      ¬scheme.Determined domain := by
  obtain ⟨matrix, matrixOk, square, products⟩ := systemOf.matrix
  have length_eq := systemOf.length_eq
  rcases square.invert_cases with ⟨inverse, inverted, inverseSquare, solves⟩ |
    ⟨singular, vector, ⟨index, indexInside, nonzero⟩, kernel⟩
  · left
    have solution : scheme.Solves domain system inverse := by
      refine ⟨inverseSquare, ?_⟩
      intro value image equations
      apply (solves (fun col => value ((scheme.lostData domain).getD col 0)) image).mp
      intro row inside
      rw [← length_eq] at inside
      rw [products value row inside]
      exact equations row inside
    refine ⟨⟨inverse, ?_, solution⟩, systemOf.determined_of_solves solution⟩
    rw [invertSystem, matrixOk, Outcome.ok_bind, inverted]
  · right
    refine ⟨?_, ?_⟩
    · rw [invertSystem, matrixOk, Outcome.ok_bind, singular]
    · intro determined
      obtain ⟨data, supported, reads⟩ := exists_data_of_vector scheme domain vector
      have isData : (scheme.lostData domain).getD index 0 < scheme.k := by
        rw [List.getD_eq_getElem _ _ indexInside]
        exact (mem_lostData.mp (List.getElem_mem indexInside)).1
      apply nonzero
      rw [← reads index indexInside]
      apply determined data supported _ _ isData
      intro parity used
      obtain ⟨equation, member, relates⟩ := systemOf.complete parity used
      obtain ⟨row, rowInside, rfl⟩ := List.mem_iff_getElem.mp member
      rw [← relates.weightedSum_unknowns supported, ← products data row rowInside,
        DenseMatrix.rowProduct_congr (by rw [square.cols_eq]; exact reads)]
      exact kernel row (length_eq ▸ rowInside)

/-- Whatever the values of the equations, what the inverse makes of them satisfies the
equations. -/
theorem SystemOf.satisfies_of_invertSystem {system : RecoverySystem}
    (systemOf : scheme.SystemOf domain system) {inverse : DenseMatrix}
    (success : invertSystem domain system = .ok inverse) {image value : Nat → GF256}
    (expressed : ∀ position < (scheme.lostData domain).length,
      value ((scheme.lostData domain).getD position 0) = inverse.rowProduct position image)
    {row : Nat} (inside : row < system.equations.length) :
    weightedSum (scheme.lostData domain) system.equations[row].unknowns value = image row := by
  obtain ⟨matrix, matrixOk, square, products⟩ := systemOf.matrix
  rw [invertSystem, matrixOk, Outcome.ok_bind] at success
  rcases square.invert_cases with ⟨found, inverted, _, solves⟩ | ⟨singular, _⟩
  · rw [inverted, Except.ok.injEq] at success
    subst success
    rw [← products value row inside]
    exact (solves _ image).mpr expressed row (systemOf.length_eq ▸ inside)
  · rw [singular] at success
    cases success

end Scheme

end LocalRepair

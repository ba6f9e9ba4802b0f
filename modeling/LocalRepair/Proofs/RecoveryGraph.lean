import Mathlib
import LocalRepair.Proofs.Restoration
import LocalRepair.Proofs.Solvability

/-!
# Recovery graphs

A recovery graph computes the value of every equation at a virtual index and the
targets from these values.  Whatever the domain, a graph that is returned recovers
its targets.
-/

namespace LocalRepair.Scheme

variable {scheme : Scheme} {domain targets : List Nat} {system : RecoverySystem}
  {inverse : DenseMatrix}

def virtuals (scheme : Scheme) (system : RecoverySystem) : List Nat :=
  List.range' scheme.n system.lost.length

/-- The node that computes the value of an equation. -/
def equationNode (item : Nat × Equation) : Node :=
  Node.ofLists item.1 item.2.sources item.2.coefficients

/-- The position of a target among the lost blocks. -/
def lostPosition (system : RecoverySystem) (target : Nat) : Nat :=
  (system.lost.findIdx? (· = target)).getD 0

/-- The node that computes a target from the values of the equations. -/
def targetNode (scheme : Scheme) (system : RecoverySystem) (inverse : DenseMatrix)
    (target : Nat) : Node :=
  Node.ofLists target (scheme.virtuals system)
    ((List.range system.lost.length).map (inverse.get (lostPosition system target)))

/-- The graph of all these nodes. -/
def recoveryGraph (scheme : Scheme) (system : RecoverySystem) (inverse : DenseMatrix)
    (targets : List Nat) : Graph :=
  ⟨((scheme.virtuals system).zip system.equations).map equationNode ++
    targets.map (scheme.targetNode system inverse), []⟩

theorem mem_virtuals {index : Nat} :
    index ∈ scheme.virtuals system ↔
      scheme.n ≤ index ∧ index < scheme.n + system.lost.length := by
  rw [virtuals, List.mem_range'_1]

theorem findIdx?_lost {target : Nat} (member : target ∈ system.lost) :
    system.lost.findIdx? (· = target) = some (lostPosition system target) := by
  have found : (system.lost.findIdx? (· = target)).isSome = true := by
    rw [List.findIdx?_isSome, List.any_eq_true]
    exact ⟨target, member, decide_eq_true rfl⟩
  obtain ⟨position, isPosition⟩ := Option.isSome_iff_exists.mp found
  rw [lostPosition, isPosition, Option.getD_some]

theorem getD_lostPosition {target : Nat} (member : target ∈ system.lost) :
    lostPosition system target < system.lost.length ∧
      system.lost.getD (lostPosition system target) 0 = target := by
  obtain ⟨inside, same, _⟩ := List.findIdx?_eq_some_iff_getElem.mp (findIdx?_lost member)
  rw [List.getD_eq_getElem _ _ inside]
  exact ⟨inside, of_decide_eq_true same⟩

theorem lostPosition_getD (distinct : system.lost.Nodup) {position : Nat}
    (inside : position < system.lost.length) :
    lostPosition system (system.lost.getD position 0) = position := by
  rw [List.getD_eq_getElem _ _ inside]
  obtain ⟨found, same⟩ := getD_lostPosition (List.getElem_mem inside)
  rw [List.getD_eq_getElem _ _ found] at same
  exact distinct.getElem_inj_iff.mp same

theorem findIdx?_lost_eq_none {target : Nat} (absent : target ∉ system.lost) :
    system.lost.findIdx? (· = target) = none := by
  rw [List.findIdx?_eq_none_iff]
  intro block member
  exact decide_eq_false fun same => absent (same ▸ member)

section

variable (systemOf : scheme.SystemOf domain system)

include systemOf

theorem SystemOf.length_virtuals :
    (scheme.virtuals system).length = system.equations.length := by
  rw [virtuals, List.length_range', systemOf.lost_eq, systemOf.length_eq]

theorem SystemOf.mem_items {item : Nat × Equation} :
    item ∈ (scheme.virtuals system).zip system.equations ↔
      ∃ row, ∃ inside : row < system.equations.length,
        item = (scheme.n + row, system.equations[row]) := by
  rw [List.mem_iff_getElem]
  have length : ((scheme.virtuals system).zip system.equations).length =
      system.equations.length := by
    rw [List.length_zip, systemOf.length_virtuals, Nat.min_self]
  constructor
  · rintro ⟨row, inside, rfl⟩
    refine ⟨row, length ▸ inside, ?_⟩
    simp [virtuals]
  · rintro ⟨row, inside, rfl⟩
    refine ⟨row, length.symm ▸ inside, ?_⟩
    simp [virtuals]

theorem SystemOf.relates_item {item : Nat × Equation}
    (member : item ∈ (scheme.virtuals system).zip system.equations) :
    ∃ parity ∈ scheme.usedParities domain, scheme.Relates domain parity item.2 :=
  systemOf.relates item.2 (List.of_mem_zip member).2

theorem SystemOf.equationNode_sources {item : Nat × Equation}
    (member : item ∈ (scheme.virtuals system).zip system.equations) :
    (equationNode item).sources = item.2.sources := by
  obtain ⟨parity, _, relates⟩ := systemOf.relates_item member
  exact Node.sources_ofLists _ relates.arity

theorem SystemOf.equationNode_coefficients {item : Nat × Equation}
    (member : item ∈ (scheme.virtuals system).zip system.equations) :
    (equationNode item).coefficients = item.2.coefficients := by
  obtain ⟨parity, _, relates⟩ := systemOf.relates_item member
  exact Node.coefficients_ofLists _ relates.arity

theorem SystemOf.survive {item : Nat × Equation}
    (member : item ∈ (scheme.virtuals system).zip system.equations) {source : Nat}
    (read : source ∈ (equationNode item).sources) : source < scheme.n ∧ source ∉ domain := by
  rw [systemOf.equationNode_sources member] at read
  obtain ⟨parity, _, relates⟩ := systemOf.relates_item member
  exact relates.survive source read

end

theorem targetNode_sources (target : Nat) :
    (scheme.targetNode system inverse target).sources = scheme.virtuals system :=
  Node.sources_ofLists target (by simp [virtuals])

theorem targetNode_coefficients (target : Nat) :
    (scheme.targetNode system inverse target).coefficients =
      (List.range system.lost.length).map (inverse.get (lostPosition system target)) :=
  Node.coefficients_ofLists target (by simp [virtuals])

theorem value_targetNode (target : Nat) (square : inverse.Square system.lost.length)
    (value : Nat → GF256) :
    (scheme.targetNode system inverse target).value value =
      inverse.rowProduct (lostPosition system target) fun row => value (scheme.n + row) := by
  rw [targetNode, Node.value_ofLists, weightedSum_eq_sum_range (by simp [virtuals]),
    DenseMatrix.rowProduct, square.cols_eq, virtuals, List.length_range']
  apply Finset.sum_congr rfl
  intro row member
  have inside := Finset.mem_range.mp member
  simp [inside]

theorem solution_target (square : inverse.Square system.lost.length)
    {solution : Nat → GF256}
    (solved : ∀ node ∈ (scheme.recoveryGraph system inverse targets).nodes,
      solution node.target = node.value solution)
    {target : Nat} (member : target ∈ targets) :
    solution target = inverse.rowProduct (lostPosition system target) fun row =>
      solution (scheme.n + row) := by
  have sum := solved _ (List.mem_append_right _ (List.mem_map_of_mem member))
  rw [value_targetNode target square] at sum
  exact sum

theorem joinTarget_eq (square : inverse.Square system.lost.length) {target : Nat}
    (lost : target ∈ system.lost) (graph : Graph) :
    joinTarget domain system inverse (scheme.virtuals system) graph target =
      graph.join (scheme.targetNode system inverse target).target
        (scheme.targetNode system inverse target).sources
        (scheme.targetNode system inverse target).coefficients := by
  have inside := (getD_lostPosition lost).1
  rw [targetNode_sources, targetNode_coefficients, joinTarget, findIdx?_lost lost]
  simp only [DenseMatrix.row_eq_ok square.wellFormed (square.rows_eq ▸ inside), square.cols_eq,
    Outcome.ok_bind]
  rfl

section

variable (systemOf : scheme.SystemOf domain system)

include systemOf

theorem SystemOf.targets_recoveryGraph :
    (scheme.recoveryGraph system inverse targets).nodes.map Node.target =
      scheme.virtuals system ++ targets := by
  have equations : (((scheme.virtuals system).zip system.equations).map equationNode).map
      Node.target = scheme.virtuals system := by
    rw [List.map_map]
    exact List.map_fst_zip (Nat.le_of_eq systemOf.length_virtuals)
  have results : (targets.map (scheme.targetNode system inverse)).map Node.target = targets := by
    rw [List.map_map]
    exact List.map_id targets
  rw [recoveryGraph, List.map_append, equations, results]

theorem SystemOf.produces_recoveryGraph {index : Nat} :
    (scheme.recoveryGraph system inverse targets).produces index = true ↔
      index ∈ scheme.virtuals system ∨ index ∈ targets := by
  rw [Graph.produces_iff, ← List.mem_map, systemOf.targets_recoveryGraph, List.mem_append]

theorem SystemOf.lt_of_mem_lost {target : Nat} (member : target ∈ system.lost) :
    target < scheme.n ∧ target ∈ domain := by
  rw [systemOf.lost_eq, mem_lostData] at member
  exact ⟨Nat.lt_of_lt_of_le member.1 scheme.shape.k_le_n, member.2⟩

theorem SystemOf.not_produces_survivor (lost : ∀ target ∈ targets, target ∈ system.lost)
    {index : Nat} (inside : index < scheme.n) (survives : index ∉ domain) :
    (scheme.recoveryGraph system inverse targets).produces index = false := by
  rw [← Bool.not_eq_true, systemOf.produces_recoveryGraph, mem_virtuals]
  rintro (virtual | isTarget)
  · omega
  · exact survives (systemOf.lt_of_mem_lost (lost index isTarget)).2

theorem SystemOf.mem_inputs_recoveryGraph (lost : ∀ target ∈ targets, target ∈ system.lost)
    {index : Nat} :
    index ∈ (scheme.recoveryGraph system inverse targets).inputs ↔
      ∃ item ∈ (scheme.virtuals system).zip system.equations,
        index ∈ (equationNode item).sources := by
  rw [Graph.mem_inputs]
  constructor
  · rintro ⟨⟨node, member, read⟩, notProduced⟩
    rcases List.mem_append.mp member with isEquation | isTarget
    · obtain ⟨item, itemMember, rfl⟩ := List.mem_map.mp isEquation
      exact ⟨item, itemMember, read⟩
    · obtain ⟨target, _, rfl⟩ := List.mem_map.mp isTarget
      rw [targetNode_sources] at read
      have produced : (scheme.recoveryGraph system inverse targets).produces index = true :=
        systemOf.produces_recoveryGraph.mpr (.inl read)
      rw [notProduced] at produced
      cases produced
  · rintro ⟨item, itemMember, read⟩
    obtain ⟨inside, survives⟩ := systemOf.survive itemMember read
    exact ⟨⟨equationNode item, List.mem_append_left _ (List.mem_map_of_mem itemMember), read⟩,
      systemOf.not_produces_survivor lost inside survives⟩

theorem SystemOf.exists_schedule_recoveryGraph
    (valid : (scheme.recoveryGraph system inverse targets).Valid)
    (lost : ∀ target ∈ targets, target ∈ system.lost) :
    ∃ schedule, (scheme.recoveryGraph system inverse targets).scheduledUnits = .ok schedule := by
  apply Graph.exists_schedule
  apply Graph.wellFounded_precedes (fun index => if index < scheme.n then 1 else 0) valid
  · intro binding member
    cases member
  · intro node member source read produced
    rcases List.mem_append.mp member with isEquation | isTarget
    · obtain ⟨item, itemMember, rfl⟩ := List.mem_map.mp isEquation
      obtain ⟨inside, survives⟩ := systemOf.survive itemMember read
      rw [systemOf.not_produces_survivor lost inside survives] at produced
      cases produced
    · obtain ⟨target, targetMember, rfl⟩ := List.mem_map.mp isTarget
      rw [targetNode_sources, mem_virtuals] at read
      have inside := (systemOf.lt_of_mem_lost (lost target targetMember)).1
      have virtual : ¬source < scheme.n := by omega
      rw [if_neg virtual]
      exact Nat.lt_of_lt_of_eq Nat.zero_lt_one (if_pos inside).symm

theorem SystemOf.solution_virtual {solution : Nat → GF256}
    (solved : ∀ node ∈ (scheme.recoveryGraph system inverse targets).nodes,
      solution node.target = node.value solution)
    {row : Nat} (inside : row < system.equations.length) :
    solution (scheme.n + row) =
      weightedSum system.equations[row].sources system.equations[row].coefficients solution := by
  have itemMember := systemOf.mem_items.mpr ⟨row, inside, rfl⟩
  have sum := solved _ (List.mem_append_left _ (List.mem_map_of_mem itemMember))
  rw [equationNode, Node.value_ofLists] at sum
  exact sum

theorem SystemOf.determines_recoveryGraph (solves : scheme.Solves domain system inverse)
    (lost : ∀ target ∈ targets, target ∈ system.lost) :
    (scheme.recoveryGraph system inverse targets).Determines scheme.shape targets := by
  intro value solution codeword agree solved target member
  have equations : ∀ row (inside : row < system.equations.length),
      weightedSum (scheme.lostData domain) system.equations[row].unknowns value =
        solution (scheme.n + row) := by
    intro row inside
    obtain ⟨parity, _, relates⟩ := systemOf.relates _ (List.getElem_mem inside)
    have sources : ∀ source ∈ system.equations[row].sources, solution source = value source := by
      intro source read
      have itemMember := systemOf.mem_items.mpr ⟨row, inside, rfl⟩
      apply agree
      apply (systemOf.mem_inputs_recoveryGraph lost).mpr
      refine ⟨_, itemMember, ?_⟩
      rw [systemOf.equationNode_sources itemMember]
      exact read
    rw [systemOf.solution_virtual solved inside, weightedSum_congr sources]
    exact (relates.balanced value codeword).symm
  obtain ⟨positionInside, isTarget⟩ := getD_lostPosition (lost target member)
  have result := solution_target (systemOf.lost_eq ▸ solves.square) solved member
  have known := solves.expresses value _ equations _ (systemOf.lost_eq ▸ positionInside)
  rw [← systemOf.lost_eq, isTarget] at known
  rw [known]
  exact result

end

private theorem SystemOf.join_equation (systemOf : scheme.SystemOf domain system)
    {item : Nat × Equation} (member : item ∈ (scheme.virtuals system).zip system.equations)
    (graph : Graph) :
    graph.join item.1 item.2.sources item.2.coefficients =
      graph.join (equationNode item).target (equationNode item).sources
        (equationNode item).coefficients := by
  rw [systemOf.equationNode_sources member, systemOf.equationNode_coefficients member]
  rfl

/-- A graph that is returned is the recovery graph of a system and its inverse. -/
theorem Sound.recoverTargets_eq_recoveryGraph (sound : scheme.Sound) {graph : Graph}
    (success : scheme.recoverTargets domain targets = .ok graph) :
    ∃ system inverse, scheme.recoverySystem domain = .ok system ∧
      invertSystem domain system = .ok inverse ∧ scheme.SystemOf domain system ∧
      scheme.Solves domain system inverse ∧ (∀ target ∈ targets, target ∈ system.lost) ∧
      graph = scheme.recoveryGraph system inverse targets ∧ graph.Built := by
  rw [recoverTargets, Outcome.bind_eq_ok_iff] at success
  obtain ⟨system, systemOk, success⟩ := success
  rw [Outcome.bind_eq_ok_iff] at success
  obtain ⟨inverse, inverseOk, success⟩ := success
  dsimp only at success
  rw [Outcome.bind_eq_ok_iff] at success
  obtain ⟨equationGraph, equationsJoined, targetsJoined⟩ := success
  have systemOf := sound.systemOf_recoverySystem systemOk
  have solves : scheme.Solves domain system inverse := by
    rcases systemOf.invert_cases with ⟨⟨found, foundOk, solves⟩, _⟩ | ⟨refused, _⟩
    · rw [inverseOk, Except.ok.injEq] at foundOk
      exact foundOk ▸ solves
    · rw [inverseOk] at refused
      cases refused
  have square : inverse.Square system.lost.length := systemOf.lost_eq ▸ solves.square
  have lost : ∀ target ∈ targets, target ∈ system.lost := by
    intro target member
    obtain ⟨before, after, step⟩ := Outcome.exists_step_of_foldlM_eq_ok targetsJoined target member
    by_contra absent
    rw [joinTarget, findIdx?_lost_eq_none absent] at step
    cases step
  obtain ⟨equationGraphEq, equationsBuilt⟩ := Graph.foldlM_join
    (fun item member graph => systemOf.join_equation member graph) .empty equationsJoined
  obtain ⟨graphEq, built⟩ := Graph.foldlM_join
    (fun target member graph => joinTarget_eq square (lost target member) graph)
    equationsBuilt targetsJoined
  rw [equationGraphEq] at graphEq
  exact ⟨system, inverse, systemOk, inverseOk, systemOf, solves, lost, graphEq, built⟩

/-- Whatever the domain and the targets, a graph that is returned recovers the
targets, and they are data blocks of the domain. -/
theorem Sound.recovers_of_recoverTargets (sound : scheme.Sound) {graph : Graph}
    (success : scheme.recoverTargets domain targets = .ok graph) :
    (∀ target ∈ targets, target ∈ scheme.lostData domain) ∧
      scheme.Recovers domain targets graph := by
  obtain ⟨system, inverse, _, _, systemOf, solves, lost, rfl, built⟩ :=
    sound.recoverTargets_eq_recoveryGraph success
  refine ⟨fun target member => systemOf.lost_eq ▸ lost target member, built.valid,
    systemOf.exists_schedule_recoveryGraph built.valid lost, ?_, ?_,
    systemOf.determines_recoveryGraph solves lost⟩
  · intro index member
    obtain ⟨item, itemMember, read⟩ := (systemOf.mem_inputs_recoveryGraph lost).mp member
    exact systemOf.survive itemMember read
  · intro index
    rw [systemOf.produces_recoveryGraph, mem_virtuals]
    constructor
    · exact fun member => ⟨.inr member, (systemOf.lt_of_mem_lost (lost index member)).1⟩
    · rintro ⟨virtual | isTarget, inside⟩
      · omega
      · exact isTarget

private theorem SystemOf.nodup_targets (systemOf : scheme.SystemOf domain system)
    (distinct : targets.Nodup) (lost : ∀ target ∈ targets, target ∈ system.lost) :
    ((scheme.recoveryGraph system inverse targets).nodes.map Node.target).Nodup := by
  rw [systemOf.targets_recoveryGraph]
  apply List.Nodup.append List.nodup_range' distinct
  intro index virtual member
  have inside := (systemOf.lt_of_mem_lost (lost index member)).1
  have outside := (mem_virtuals.mp virtual).1
  omega

theorem nodes_recoveryGraph_nil :
    (scheme.recoveryGraph system inverse []).nodes =
      ((scheme.virtuals system).zip system.equations).map equationNode :=
  List.append_nil _

private theorem SystemOf.join_equations (systemOf : scheme.SystemOf domain system)
    (inverse : DenseMatrix) :
    ((scheme.virtuals system).zip system.equations).foldlM
        (fun graph (item : Nat × Equation) =>
          graph.join item.1 item.2.sources item.2.coefficients) Graph.empty =
      .ok (scheme.recoveryGraph system inverse []) := by
  have reads : ∀ item ∈ (scheme.virtuals system).zip system.equations,
      (equationNode item).sources ≠ [] := by
    intro item member
    rw [systemOf.equationNode_sources member]
    obtain ⟨parity, _, relates⟩ := systemOf.relates_item member
    exact relates.reads
  have notItself : ∀ item ∈ (scheme.virtuals system).zip system.equations,
      (equationNode item).target ∉ (equationNode item).sources := by
    intro item member own
    have inside := (systemOf.survive member own).1
    obtain ⟨row, _, rfl⟩ := systemOf.mem_items.mp member
    exact absurd inside (Nat.not_lt.mpr (Nat.le_add_right _ _))
  have fresh : ((Graph.empty.nodes ++ ((scheme.virtuals system).zip system.equations).map
      equationNode).map Node.target).Nodup := by
    have distinct : ((scheme.recoveryGraph system inverse []).nodes.map Node.target).Nodup :=
      systemOf.nodup_targets List.nodup_nil fun _ member => absurd member List.not_mem_nil
    rw [nodes_recoveryGraph_nil] at distinct
    exact distinct
  have joined := Graph.foldlM_join_eq_ok
    (fun item member graph => systemOf.join_equation member graph) reads notItself
    Graph.empty fresh
  rw [Graph.empty, List.nil_append, ← nodes_recoveryGraph_nil] at joined
  exact joined

private theorem SystemOf.join_targets (systemOf : scheme.SystemOf domain system)
    (square : inverse.Square system.lost.length) (distinct : targets.Nodup)
    (lost : ∀ target ∈ targets, target ∈ system.lost) :
    targets.foldlM (joinTarget domain system inverse (scheme.virtuals system))
        (scheme.recoveryGraph system inverse []) =
      .ok (scheme.recoveryGraph system inverse targets) := by
  have joins : ∀ target ∈ targets, ∀ graph : Graph,
      joinTarget domain system inverse (scheme.virtuals system) graph target =
        graph.join (scheme.targetNode system inverse target).target
          (scheme.targetNode system inverse target).sources
          (scheme.targetNode system inverse target).coefficients :=
    fun target member graph => joinTarget_eq square (lost target member) graph
  have reads : ∀ target ∈ targets,
      (scheme.targetNode system inverse target).sources ≠ [] := by
    intro target member none
    rw [targetNode_sources, virtuals, List.range'_eq_nil_iff] at none
    have inside := (getD_lostPosition (lost target member)).1
    omega
  have notItself : ∀ target ∈ targets, (scheme.targetNode system inverse target).target ∉
      (scheme.targetNode system inverse target).sources := by
    intro target member own
    rw [targetNode_sources, mem_virtuals] at own
    have inside := (systemOf.lt_of_mem_lost (lost target member)).1
    exact absurd inside (Nat.not_lt.mpr own.1)
  have fresh : (((scheme.recoveryGraph system inverse []).nodes ++
      targets.map (scheme.targetNode system inverse)).map Node.target).Nodup := by
    rw [nodes_recoveryGraph_nil]
    exact systemOf.nodup_targets distinct lost
  have joined := Graph.foldlM_join_eq_ok joins reads notItself _ fresh
  rw [nodes_recoveryGraph_nil] at joined
  exact joined

/-- Different lost blocks of a system that determines them can be recovered. -/
theorem Sound.recoverTargets_eq_ok (sound : scheme.Sound)
    (systemOk : scheme.recoverySystem domain = .ok system)
    (determined : scheme.Determined domain) (distinct : targets.Nodup)
    (lost : ∀ target ∈ targets, target ∈ scheme.lostData domain) :
    ∃ graph, scheme.recoverTargets domain targets = .ok graph := by
  have systemOf := sound.systemOf_recoverySystem systemOk
  rcases systemOf.invert_cases with ⟨⟨inverse, inverseOk, solves⟩, _⟩ | ⟨_, undetermined⟩
  · have equationsJoined := systemOf.join_equations inverse
    have targetsJoined := systemOf.join_targets (systemOf.lost_eq ▸ solves.square) distinct
      (systemOf.lost_eq ▸ lost)
    refine ⟨scheme.recoveryGraph system inverse targets, ?_⟩
    rw [recoverTargets, systemOk, Outcome.ok_bind, inverseOk, Outcome.ok_bind]
    dsimp only
    rw [← virtuals, equationsJoined, Outcome.ok_bind]
    exact targetsJoined
  · exact absurd determined undetermined

theorem Sound.recoverTargets_eq_error (sound : scheme.Sound)
    (systemOk : scheme.recoverySystem domain = .ok system)
    (undetermined : ¬scheme.Determined domain) (targets : List Nat) :
    scheme.recoverTargets domain targets =
      .error (.recovery (.singular domain (scheme.lostData domain).length)) := by
  have systemOf := sound.systemOf_recoverySystem systemOk
  rcases systemOf.invert_cases with ⟨_, determined⟩ | ⟨inverseError, _⟩
  · exact absurd determined undetermined
  · rw [recoverTargets, systemOk, Outcome.ok_bind, inverseError, Outcome.error_bind]

end LocalRepair.Scheme

import Mathlib
import LocalRepair.Proofs.GraphState
import LocalRepair.Proofs.Lists
import LocalRepair.Proofs.QueueOrder

/-!
# Schedules

The units of a graph divide its nodes.  A schedule lists the units so that every
source that a node produces is produced by an earlier unit.  Scheduling returns
such a list, and it does so for every graph whose units do not wait for one
another in a circle.
-/

namespace LocalRepair

namespace Graph

variable {graph : Graph}

theorem mem_unitOf_self {node : Node} (member : node ∈ graph.nodes) :
    node ∈ graph.unitOf node := by
  unfold unitOf
  split
  · exact List.mem_singleton.mpr rfl
  · rename_i binding found
    rw [List.mem_filter]
    exact ⟨member, by simpa using List.find?_some found⟩

theorem mem_unitOf (valid : graph.Valid) {node other : Node}
    (member : node ∈ graph.nodes) (inUnit : other ∈ graph.unitOf node) :
    other ∈ graph.nodes ∧ graph.unitOf other = graph.unitOf node := by
  cases found : graph.bindings.find? (node.target ∈ ·) with
  | none =>
      have single : graph.unitOf node = [node] := by simp [unitOf, found]
      rw [single, List.mem_singleton] at inUnit
      rw [inUnit]
      exact ⟨member, rfl⟩
  | some binding =>
      have whole : graph.unitOf node = graph.nodes.filter (·.target ∈ binding) := by
        simp [unitOf, found]
      rw [whole, List.mem_filter, decide_eq_true_eq] at inUnit
      obtain ⟨otherMember, bound⟩ := inUnit
      have bindingMember := List.mem_of_find?_eq_some found
      have same : graph.bindings.find? (other.target ∈ ·) = some binding := by
        cases otherFound : graph.bindings.find? (other.target ∈ ·) with
        | none =>
            have unbound := List.find?_eq_none.mp otherFound binding bindingMember
            simp [bound] at unbound
        | some first =>
            have inFirst : other.target ∈ first := by
              simpa using List.find?_some otherFound
            rw [eq_of_mem_of_nodup_flatten valid.bindings
              (List.mem_of_find?_eq_some otherFound) bindingMember inFirst bound]
      refine ⟨otherMember, ?_⟩
      rw [whole]
      simp [unitOf, same]

theorem mem_units {unit : List Node} :
    unit ∈ graph.units ↔ ∃ node ∈ graph.nodes, graph.unitOf node = unit := by
  rw [units, List.mem_eraseDups, List.mem_map]

theorem mem_nodes_of_mem_units (valid : graph.Valid) {unit : List Node}
    (unitMember : unit ∈ graph.units) {node : Node} (member : node ∈ unit) :
    node ∈ graph.nodes ∧ graph.unitOf node = unit := by
  obtain ⟨first, firstMember, rfl⟩ := mem_units.mp unitMember
  exact mem_unitOf valid firstMember member

theorem nodup_nodes (valid : graph.Valid) : graph.nodes.Nodup :=
  List.Nodup.of_map _ valid.targets

theorem nodup_flatten_units (valid : graph.Valid) : graph.units.flatten.Nodup := by
  rw [List.nodup_flatten]
  constructor
  · intro unit unitMember
    obtain ⟨node, _, rfl⟩ := mem_units.mp unitMember
    unfold unitOf
    split
    · exact List.nodup_singleton _
    · exact (nodup_nodes valid).filter _
  · apply (nodup_eraseDups _).imp_of_mem
    intro left right leftMember rightMember different node inLeft inRight
    apply different
    rw [← (mem_nodes_of_mem_units valid leftMember inLeft).2,
      (mem_nodes_of_mem_units valid rightMember inRight).2]

/-- The units divide the nodes. -/
theorem flatten_units_perm (valid : graph.Valid) :
    graph.units.flatten.Perm graph.nodes := by
  rw [List.perm_ext_iff_of_nodup (nodup_flatten_units valid) (nodup_nodes valid)]
  intro node
  rw [List.mem_flatten]
  constructor
  · rintro ⟨unit, unitMember, member⟩
    exact (mem_nodes_of_mem_units valid unitMember member).1
  · intro member
    exact ⟨graph.unitOf node, mem_units.mpr ⟨node, member, rfl⟩, mem_unitOf_self member⟩

/-- The nodes of a graph unit by unit, such that every source is produced before
it is read, if it is produced at all. -/
structure Schedule (graph : Graph) (schedule : List (List Node)) : Prop where
  perm : schedule.Perm graph.units
  ordered : ∀ before unit after, schedule = before ++ unit :: after →
    ∀ node ∈ unit, ∀ source ∈ node.sources, graph.produces source = true →
      ∃ producer ∈ before.flatten, producer.target = source

/-- One unit produces what another one reads. -/
def Precedes (graph : Graph) (producing unit : List Node) : Prop :=
  producing ∈ graph.units ∧ unit ∈ graph.units ∧ ∃ node ∈ unit, ∃ source ∈ node.sources,
    ∃ producer ∈ producing, producer.target = source

theorem unitProducing?_spec {units : List (List Node)} {index position : Nat}
    (found : unitProducing? units index = some position) :
    position < units.length ∧ ∃ producer ∈ units.getD position [], producer.target = index := by
  unfold unitProducing? at found
  obtain ⟨inside, produces, _⟩ := List.findIdx?_eq_some_iff_getElem.mp found
  refine ⟨inside, ?_⟩
  rw [List.getD_eq_getElem _ _ inside]
  simpa using produces

theorem exists_unitProducing? {units : List (List Node)} {producer : Node}
    (member : producer ∈ units.flatten) :
    ∃ position, unitProducing? units producer.target = some position := by
  obtain ⟨unit, unitMember, inUnit⟩ := List.mem_flatten.mp member
  have some : (unitProducing? units producer.target).isSome = true := by
    rw [unitProducing?, List.findIdx?_isSome, List.any_eq_true]
    refine ⟨unit, unitMember, ?_⟩
    rw [List.any_eq_true]
    exact ⟨producer, inUnit, by simp⟩
  exact Option.isSome_iff_exists.mp some

theorem mem_unitDependencies {units : List (List Node)} {unit : List Node}
    {position : Nat} :
    position ∈ unitDependencies units unit ↔
      ∃ node ∈ unit, ∃ source ∈ node.sources,
        unitProducing? units source = some position := by
  rw [unitDependencies, Ascending.mem_ofList, List.mem_filterMap]
  constructor
  · rintro ⟨source, member, produced⟩
    obtain ⟨node, nodeMember, read⟩ := List.mem_flatMap.mp member
    exact ⟨node, nodeMember, source, read, produced⟩
  · rintro ⟨node, nodeMember, source, read, produced⟩
    exact ⟨source, List.mem_flatMap.mpr ⟨node, nodeMember, read⟩, produced⟩

/-- For each position of a unit, the positions of the units that it depends on. -/
def dependencies (graph : Graph) : List (List Nat) :=
  graph.units.map (unitDependencies graph.units)

/-- The positions of the units in the order in which they are scheduled. -/
def unitOrder (graph : Graph) : List Nat := queueOrder graph.dependencies

theorem length_dependencies : graph.dependencies.length = graph.units.length :=
  List.length_map _

theorem nodup_dependencies : ∀ needs ∈ graph.dependencies, needs.Nodup := by
  intro needs member
  obtain ⟨unit, _, rfl⟩ := List.mem_map.mp member
  exact (Ascending.pairwise_ofList _).imp Nat.ne_of_lt

theorem getD_dependencies {position : Nat} (inside : position < graph.units.length) :
    graph.dependencies.getD position [] =
      unitDependencies graph.units (graph.units.getD position []) := by
  simp [dependencies, inside]

theorem scheduledUnits_eq_ok_iff {schedule : List (List Node)} :
    graph.scheduledUnits = .ok schedule ↔
      graph.units.findSome? ownSource? = none ∧
        graph.unitOrder.length = graph.units.length ∧
        graph.unitOrder.map (graph.units.getD · []) = schedule := by
  unfold scheduledUnits unitOrder dependencies
  dsimp only
  cases graph.units.findSome? ownSource? with
  | some own => simp
  | none =>
      by_cases full : (queueOrder (graph.units.map (unitDependencies graph.units))).length =
          graph.units.length
      · simp [full]
      · simp [full]

theorem unitOrder_perm (full : graph.unitOrder.length = graph.units.length) :
    graph.unitOrder.Perm (List.range graph.units.length) := by
  rw [← length_dependencies]
  exact queueOrder_perm nodup_dependencies (full.trans length_dependencies.symm)

theorem map_unitOrder_perm (full : graph.unitOrder.length = graph.units.length) :
    (graph.unitOrder.map (graph.units.getD · [])).Perm graph.units := by
  have whole : (List.range graph.units.length).map (graph.units.getD · []) = graph.units := by
    apply List.ext_getElem
    · simp
    · intro position _ inside
      simp [inside]
  have mapped := (unitOrder_perm full).map (graph.units.getD · [])
  rw [whole] at mapped
  exact mapped

theorem exists_dependency (valid : graph.Valid) {position : Nat}
    (inside : position < graph.units.length) {node : Node}
    (member : node ∈ graph.units.getD position []) {source : Nat} (read : source ∈ node.sources)
    (produced : graph.produces source = true) :
    ∃ needed ∈ graph.dependencies.getD position [],
      ∃ producer ∈ graph.units.getD needed [], producer.target = source := by
  obtain ⟨producer, producerMember, rfl⟩ := produces_iff.mp produced
  obtain ⟨needed, found⟩ :=
    exists_unitProducing? ((flatten_units_perm valid).mem_iff.mpr producerMember)
  refine ⟨needed, ?_, (unitProducing?_spec found).2⟩
  rw [getD_dependencies inside, mem_unitDependencies]
  exact ⟨node, member, producer.target, read, found⟩

theorem schedule_of_scheduledUnits (valid : graph.Valid) {schedule : List (List Node)}
    (success : graph.scheduledUnits = .ok schedule) : graph.Schedule schedule := by
  obtain ⟨_, full, rfl⟩ := scheduledUnits_eq_ok_iff.mp success
  refine ⟨map_unitOrder_perm full, ?_⟩
  intro before unit after split node inUnit source read produced
  obtain ⟨earlier, later, orderSplit, rfl, rest⟩ := List.map_eq_append_iff.mp split
  obtain ⟨position, tail, rfl, rfl, rfl⟩ := List.map_eq_cons_iff.mp rest
  have inside : position < graph.units.length := by
    apply List.mem_range.mp
    rw [← (unitOrder_perm full).mem_iff, orderSplit]
    exact List.mem_append_right _ List.mem_cons_self
  obtain ⟨needed, dependency, producer, member, same⟩ :=
    exists_dependency valid inside inUnit read produced
  have first := (queueOrder_invariant nodup_dependencies).ordered earlier position tail
    orderSplit needed dependency
  exact ⟨producer, List.mem_flatten.mpr ⟨_, List.mem_map.mpr ⟨needed, first, rfl⟩, member⟩, same⟩

theorem precedes_of_mem_dependencies {needed position : Nat}
    (member : needed ∈ graph.dependencies.getD position []) :
    needed < graph.units.length ∧
      graph.Precedes (graph.units.getD needed []) (graph.units.getD position []) := by
  have unitMember : ∀ index < graph.units.length, graph.units.getD index [] ∈ graph.units := by
    intro index below
    rw [List.getD_eq_getElem _ _ below]
    exact List.getElem_mem below
  by_cases below : position < graph.units.length
  · rw [getD_dependencies below, mem_unitDependencies] at member
    obtain ⟨node, inUnit, source, read, found⟩ := member
    obtain ⟨inside, producer, producerMember, same⟩ := unitProducing?_spec found
    exact ⟨inside, unitMember needed inside, unitMember position below, node, inUnit, source,
      read, producer, producerMember, same⟩
  · rw [List.getD_eq_default _ _ (length_dependencies.trans_le (Nat.le_of_not_lt below))] at member
    cases member

section

variable (acyclic : WellFounded graph.Precedes)
include acyclic

theorem ownSource?_eq_none : graph.units.findSome? ownSource? = none := by
  rw [List.findSome?_eq_none_iff]
  intro unit unitMember
  unfold ownSource?
  rw [List.findSome?_eq_none_iff]
  intro node inUnit
  rw [Option.map_eq_none_iff, List.find?_eq_none]
  intro source read own
  obtain ⟨producer, member, same⟩ : ∃ producer ∈ unit, producer.target = source := by
    simpa using own
  exact acyclic.irrefl.irrefl unit
    ⟨unitMember, unitMember, node, inUnit, source, read, producer, member, same⟩

theorem wellFounded_dependencies :
    WellFounded fun needed position => needed ∈ graph.dependencies.getD position [] := by
  apply Subrelation.wf (r := InvImage graph.Precedes (graph.units.getD · []))
  · intro needed position member
    exact (precedes_of_mem_dependencies member).2
  · exact InvImage.wf _ acyclic

theorem length_unitOrder : graph.unitOrder.length = graph.units.length := by
  rw [unitOrder, length_queueOrder nodup_dependencies, length_dependencies]
  intro position below
  apply mem_queueOrder_of_acc nodup_dependencies _ below
    ((wellFounded_dependencies acyclic).apply position)
  intro _ _ needed member
  exact (precedes_of_mem_dependencies member).1.trans_eq length_dependencies.symm

/-- Units that do not wait for one another in a circle can be scheduled. -/
theorem exists_schedule : ∃ schedule, graph.scheduledUnits = .ok schedule := by
  refine ⟨graph.unitOrder.map (graph.units.getD · []), ?_⟩
  rw [scheduledUnits_eq_ok_iff]
  exact ⟨ownSource?_eq_none acyclic, length_unitOrder acyclic, rfl⟩

end

private theorem rank_eq_of_mem_unit (rank : Nat → Nat)
    (together : ∀ binding ∈ graph.bindings, ∀ left ∈ binding, ∀ right ∈ binding,
      rank left = rank right)
    {unit : List Node} (unitMember : unit ∈ graph.units) {left right : Node}
    (leftMember : left ∈ unit) (rightMember : right ∈ unit) :
    rank left.target = rank right.target := by
  obtain ⟨first, _, rfl⟩ := mem_units.mp unitMember
  cases found : graph.bindings.find? (first.target ∈ ·) with
  | none =>
      have single : graph.unitOf first = [first] := by simp [unitOf, found]
      rw [single, List.mem_singleton] at leftMember rightMember
      rw [leftMember, rightMember]
  | some binding =>
      have whole : graph.unitOf first = graph.nodes.filter (·.target ∈ binding) := by
        simp [unitOf, found]
      rw [whole, List.mem_filter, decide_eq_true_eq] at leftMember rightMember
      exact together binding (List.mem_of_find?_eq_some found) _ leftMember.2 _ rightMember.2

/-- Units do not wait for one another in a circle if indices have ranks that fall
from a node to the sources that are produced, and that bindings share. -/
theorem wellFounded_precedes (rank : Nat → Nat)
    (valid : graph.Valid)
    (together : ∀ binding ∈ graph.bindings, ∀ left ∈ binding, ∀ right ∈ binding,
      rank left = rank right)
    (falls : ∀ node ∈ graph.nodes, ∀ source ∈ node.sources, graph.produces source = true →
      rank source < rank node.target) :
    WellFounded graph.Precedes := by
  let height : List Node → Nat := fun unit => (unit.head?.map (rank ·.target)).getD 0
  have heightEq : ∀ unit ∈ graph.units, ∀ node ∈ unit, height unit = rank node.target := by
    intro unit unitMember node member
    obtain ⟨first, rest, rfl⟩ := List.exists_cons_of_ne_nil (List.ne_nil_of_mem member)
    exact rank_eq_of_mem_unit rank together unitMember List.mem_cons_self member
  apply Subrelation.wf (r := InvImage (· < ·) height) _ (InvImage.wf _ Nat.lt_wfRel.wf)
  rintro producing unit ⟨producingMember, unitMember, node, member, source, read, producer,
    producerMember, rfl⟩
  have nodeMember := (mem_nodes_of_mem_units valid unitMember member).1
  have producerNode := (mem_nodes_of_mem_units valid producingMember producerMember).1
  change height producing < height unit
  rw [heightEq producing producingMember producer producerMember,
    heightEq unit unitMember node member]
  exact falls node nodeMember _ read (produces_iff.mpr ⟨producer, producerNode, rfl⟩)

end Graph

end LocalRepair

import Mathlib
import LocalRepair.Proofs.RunOutcome

/-!
# Orders that respect dependencies

A graph can be scheduled exactly if no unit depends on itself, directly or through
others.  The order of its targets then lists each target once, keeps the members of a
binding together and puts every node behind those that produce its sources.  Lowering
gives one batch for each unit, in the same order, with the sources of the unit and the
sums of their coefficients.
-/

namespace LocalRepair

theorem wellFounded_of_noCircle {α : Type} {related : α → α → Prop} (members : List α)
    (inside : ∀ {left right}, related left right → left ∈ members)
    (noCircle : ∀ item, ¬Relation.TransGen related item item) : WellFounded related := by
  have restricted : WellFounded fun left right : {item // item ∈ members} =>
      Relation.TransGen related left right := by
    have finite : Finite {item // item ∈ members} := members.finite_toSet.to_subtype
    have transitive : IsTrans {item // item ∈ members} fun left right =>
        Relation.TransGen related left right := ⟨fun _ _ _ => Relation.TransGen.trans⟩
    have irreflexive : Std.Irrefl fun left right : {item // item ∈ members} =>
        Relation.TransGen related left right := ⟨fun item => noCircle item⟩
    exact Finite.wellFounded_of_trans_of_irrefl _
  have accessible : ∀ item : {item // item ∈ members}, Acc related item := by
    intro item
    induction item using restricted.induction with
    | _ item ih =>
        constructor
        intro earlier before
        exact ih ⟨earlier, inside before⟩ (.single before)
  exact ⟨fun item => ⟨item, fun earlier before => accessible ⟨earlier, inside before⟩⟩⟩

theorem mem_of_append_eq_append_cons {α : Type} {left right before after : List α} {item : α}
    (same : left ++ right = before ++ item :: after) (absent : item ∉ left) :
    ∀ other ∈ left, other ∈ before := by
  intro other member
  rcases List.append_eq_append_iff.mp same with ⟨between, isBefore, _⟩ | ⟨between, isLeft, rest⟩
  · rw [isBefore]
    exact List.mem_append_left _ member
  · cases between with
    | nil =>
        rw [isLeft, List.append_nil] at member
        exact member
    | cons head tail =>
        obtain ⟨rfl, _⟩ := List.cons.inj rest
        exact absurd (isLeft ▸ List.mem_append_right _ List.mem_cons_self) absent

namespace Graph

variable {graph : Graph} {unit producing : List Node} {schedule : List (List Node)}

/-- A node that is not bound, alone, or the nodes of a binding in the order in which they
were joined. -/
inductive FormsUnit (graph : Graph) : List Node → Prop where
  | alone {node : Node} :
      node ∈ graph.nodes →
      (∀ binding ∈ graph.bindings, node.target ∉ binding) →
      FormsUnit graph [node]
  | bound {binding : List Nat} :
      binding ∈ graph.bindings →
      FormsUnit graph (graph.nodes.filter (·.target ∈ binding))

/-- A node of one unit reads what the other unit, or the same one, produces. -/
def Feeds (graph : Graph) (producing unit : List Node) : Prop :=
  graph.FormsUnit producing ∧ graph.FormsUnit unit ∧ ∃ node ∈ unit, ∃ source ∈ node.sources,
    ∃ producer ∈ producing, producer.target = source

/-- No unit feeds itself, directly or through others. -/
def Acyclic (graph : Graph) : Prop :=
  ∀ unit, ¬Relation.TransGen graph.Feeds unit unit

theorem mem_units_iff (valid : graph.Valid) : unit ∈ graph.units ↔ graph.FormsUnit unit := by
  rw [mem_units]
  constructor
  · rintro ⟨node, member, rfl⟩
    cases found : graph.bindings.find? (node.target ∈ ·) with
    | none =>
        have single : graph.unitOf node = [node] := by simp [unitOf, found]
        rw [single]
        refine .alone member fun binding bindingMember => ?_
        simpa using List.find?_eq_none.mp found binding bindingMember
    | some binding =>
        have whole : graph.unitOf node = graph.nodes.filter (·.target ∈ binding) := by
          simp [unitOf, found]
        rw [whole]
        exact .bound (List.mem_of_find?_eq_some found)
  · intro formsUnit
    cases formsUnit with
    | @alone node member unbound =>
        have none : graph.bindings.find? (node.target ∈ ·) = none := by
          rw [List.find?_eq_none]
          intro binding bindingMember
          simpa using unbound binding bindingMember
        exact ⟨node, member, by simp [unitOf, none]⟩
    | @bound binding bindingMember =>
        -- a binding names at least two targets, and the first of them has a node
        obtain ⟨long, produced⟩ := valid.bound binding bindingMember
        obtain ⟨target, named⟩ :=
          List.exists_mem_of_length_pos (Nat.lt_of_lt_of_le Nat.two_pos long)
        obtain ⟨node, member, rfl⟩ := produces_iff.mp (produced target named)
        refine ⟨node, member, ?_⟩
        cases found : graph.bindings.find? (node.target ∈ ·) with
        | none =>
            have unbound := List.find?_eq_none.mp found binding bindingMember
            simp [named] at unbound
        | some first =>
            have inFirst : node.target ∈ first := by simpa using List.find?_some found
            have same := eq_of_mem_of_nodup_flatten valid.bindings
              (List.mem_of_find?_eq_some found) bindingMember inFirst named
            simp [unitOf, found, same]

theorem nodup_units : graph.units.Nodup :=
  nodup_eraseDups _

theorem feeds_iff_precedes (valid : graph.Valid) :
    graph.Feeds producing unit ↔ graph.Precedes producing unit := by
  rw [Feeds, Precedes, mem_units_iff valid, mem_units_iff valid]

theorem Acyclic.wellFounded (valid : graph.Valid) (acyclic : graph.Acyclic) :
    WellFounded graph.Precedes := by
  have same : graph.Precedes = graph.Feeds := by
    funext producing unit
    exact propext (feeds_iff_precedes valid).symm
  apply wellFounded_of_noCircle graph.units
  · intro producing unit precedes
    exact precedes.1
  · rw [same]
    exact acyclic

/-- Whatever a unit reads of another one stands before it in a schedule. -/
theorem Schedule.mem_before (valid : graph.Valid) {before after : List (List Node)}
    (scheduled : graph.Schedule (before ++ unit :: after))
    (precedes : graph.Precedes producing unit) : producing ∈ before := by
  obtain ⟨producingMember, _, node, member, source, read, producer, producerMember, rfl⟩ := precedes
  have producerNode := mem_nodes_of_mem_units valid producingMember producerMember
  obtain ⟨other, otherMember, sameTarget⟩ := scheduled.ordered before unit after rfl node member _
    read (produces_target producerNode.1)
  obtain ⟨earlier, isEarlier, inEarlier⟩ := List.mem_flatten.mp otherMember
  have earlierUnit : earlier ∈ graph.units :=
    scheduled.perm.mem_iff.mp (List.mem_append_left _ isEarlier)
  have otherNode := mem_nodes_of_mem_units valid earlierUnit inEarlier
  have sameNode : other = producer :=
    List.inj_on_of_nodup_map valid.targets otherNode.1 producerNode.1 sameTarget
  rw [← producerNode.2, ← sameNode, otherNode.2]
  exact isEarlier

theorem Schedule.idxOf_lt (valid : graph.Valid) (scheduled : graph.Schedule schedule)
    (precedes : graph.Precedes producing unit) :
    schedule.idxOf producing < schedule.idxOf unit := by
  have unitMember : unit ∈ schedule := scheduled.perm.mem_iff.mpr precedes.2.1
  obtain ⟨before, after, rfl, notBefore⟩ := List.eq_append_cons_of_mem unitMember
  have isBefore := scheduled.mem_before valid precedes
  rw [List.idxOf_append_of_mem isBefore, List.idxOf_append_of_notMem notBefore,
    List.idxOf_cons_self, Nat.add_zero]
  exact List.idxOf_lt_length_of_mem isBefore

/-- Where units are scheduled, every unit comes before those that it feeds. -/
theorem Schedule.acyclic (valid : graph.Valid) (scheduled : graph.Schedule schedule) :
    graph.Acyclic := by
  intro unit circle
  have rises : ∀ {first last}, Relation.TransGen graph.Feeds first last →
      schedule.idxOf first < schedule.idxOf last := by
    intro first last path
    induction path with
    | single feeds => exact scheduled.idxOf_lt valid ((feeds_iff_precedes valid).mp feeds)
    | tail _ feeds ih =>
        exact ih.trans (scheduled.idxOf_lt valid ((feeds_iff_precedes valid).mp feeds))
  exact Nat.lt_irrefl _ (rises circle)

theorem exists_schedule_iff (valid : graph.Valid) :
    (∃ schedule, graph.scheduledUnits = .ok schedule) ↔ graph.Acyclic := by
  constructor
  · rintro ⟨schedule, success⟩
    exact (schedule_of_scheduledUnits valid success).acyclic valid
  · intro acyclic
    exact exists_schedule (acyclic.wellFounded valid)

theorem scheduledUnits_cases (graph : Graph) :
    (∃ schedule, graph.scheduledUnits = .ok schedule) ∨
      ∃ cause, graph.scheduledUnits = .error (.graph cause) := by
  unfold scheduledUnits
  dsimp only
  split
  · exact .inr ⟨_, rfl⟩
  · split
    · exact .inl ⟨_, rfl⟩
    · exact .inr ⟨_, rfl⟩

theorem topologicalOrder_eq_ok_iff {order : List Nat} :
    graph.topologicalOrder = .ok order ↔
      ∃ schedule, graph.scheduledUnits = .ok schedule ∧
        schedule.flatten.map Node.target = order := by
  rw [topologicalOrder, Outcome.bind_eq_ok_iff]
  simp only [Outcome.pure_eq_ok, Except.ok.injEq]

/-- An order in which the targets of a graph can be computed. -/
structure DependencyOrder (graph : Graph) (order : List Nat) : Prop where
  perm : order.Perm (graph.nodes.map Node.target)
  nodup : order.Nodup
  /-- The members of a binding follow one another as they were joined. -/
  together : ∀ binding ∈ graph.bindings,
    (graph.nodes.filter (·.target ∈ binding)).map Node.target <:+: order
  /-- What a node reads is produced before it, if it is produced at all. -/
  ordered : ∀ before target after, order = before ++ target :: after →
    ∀ node ∈ graph.nodes, node.target = target →
      ∀ source ∈ node.sources, graph.produces source = true → source ∈ before

theorem Schedule.dependencyOrder (valid : graph.Valid) (scheduled : graph.Schedule schedule) :
    graph.DependencyOrder (schedule.flatten.map Node.target) := by
  have perm : (schedule.flatten.map Node.target).Perm (graph.nodes.map Node.target) :=
    (scheduled.perm.flatten.trans (flatten_units_perm valid)).map Node.target
  have nodup := perm.nodup_iff.mpr valid.targets
  refine ⟨perm, nodup, ?_, ?_⟩
  · intro binding member
    have isUnit := scheduled.perm.mem_iff.mpr ((mem_units_iff valid).mpr (.bound member))
    obtain ⟨before, after, rfl⟩ := List.append_of_mem isUnit
    rw [List.flatten_append, List.flatten_cons, List.map_append, List.map_append]
    exact ⟨_, _, List.append_assoc _ _ _⟩
  · rintro before _ after division node member rfl source read produced
    have isUnit := scheduled.perm.mem_iff.mpr (mem_units.mpr ⟨node, member, rfl⟩)
    obtain ⟨earlier, later, rfl⟩ := List.append_of_mem isUnit
    have inUnit : node.target ∈ (graph.unitOf node :: later).flatten.map Node.target :=
      List.mem_map_of_mem (List.mem_append_left _ (mem_unitOf_self member))
    rw [List.flatten_append, List.map_append] at division nodup
    have notEarlier : node.target ∉ earlier.flatten.map Node.target :=
      fun early => List.disjoint_of_nodup_append nodup early inUnit
    obtain ⟨producer, isEarlier, rfl⟩ := scheduled.ordered earlier _ later rfl node
      (mem_unitOf_self member) source read produced
    exact mem_of_append_eq_append_cons division notEarlier _ (List.mem_map_of_mem isEarlier)

end Graph

/-- What a batch computes, for the nodes of a unit. -/
structure Batch.Computes (batch : Batch) (unit : List Node) : Prop where
  targets : batch.targets = unit.map Node.target
  distinct : batch.children.Nodup
  children : ∀ source, source ∈ batch.children ↔ ∃ node ∈ unit, source ∈ node.sources
  rows : batch.coefficients.rows = batch.targets.length
  cols : batch.coefficients.cols = batch.children.length
  wellFormed : batch.coefficients.WellFormed
  /-- The coefficients with which a node reads a child are added up. -/
  entries : ∀ (row col : Nat) (node : Node) (child : Nat),
    unit[row]? = some node → batch.children[col]? = some child →
      batch.coefficients.get row col =
        ((node.terms.filter (·.source = child)).map Term.coefficient).sum

theorem Node.coefficientOf_eq_sum_filter (node : Node) (source : Nat) :
    node.coefficientOf source =
      ((node.terms.filter (·.source = source)).map Term.coefficient).sum := by
  rw [Node.coefficientOf_eq]
  induction node.terms with
  | nil => rfl
  | cons head tail ih => by_cases same : head.source = source <;> simp [same, ih]

theorem Batch.computes_ofUnit (unit : List Node) : (Batch.ofUnit unit).Computes unit where
  targets := rfl
  distinct := Batch.nodup_children
  children _ := Batch.mem_children
  rows := by simp [Batch.ofUnit]
  cols := rfl
  wellFormed := Batch.wellFormed_ofUnit
  entries row col node child isNode isChild := by
    obtain ⟨rowInside, rfl⟩ := List.getElem?_eq_some_iff.mp isNode
    obtain ⟨colInside, rfl⟩ := List.getElem?_eq_some_iff.mp isChild
    have entries := congrArg (·[col]?) (Batch.row_ofUnit rowInside)
    have width : col < (Batch.ofUnit unit).coefficients.cols := colInside
    simpa [width, colInside, Node.coefficientOf_eq_sum_filter] using entries

namespace Graph

variable {graph : Graph}

/-- A graph that calls lead to is ordered and lowered if its units do not wait for one
another in a circle, and refused because of the graph otherwise.  The order respects all
dependencies, and the batches are those of the units in this order. -/
theorem Built.ordered_and_lowered (built : graph.Built) :
    ((∃ order, graph.topologicalOrder = .ok order) ↔ graph.Acyclic) ∧
    ((∃ batches, graph.lower = .ok batches) ↔ graph.Acyclic) ∧
    (¬graph.Acyclic → ∃ cause, graph.topologicalOrder = .error (.graph cause) ∧
      graph.lower = .error (.graph cause)) ∧
    ∀ order batches, graph.topologicalOrder = .ok order → graph.lower = .ok batches →
      graph.DependencyOrder order ∧ batches.flatMap Batch.targets = order ∧
      ∃ units : List (List Node), units.Nodup ∧ (∀ unit, unit ∈ units ↔ graph.FormsUnit unit) ∧
        List.Forall₂ Batch.Computes batches units := by
  have valid := built.valid
  refine ⟨?_, ?_, ?_, ?_⟩
  · rw [← exists_schedule_iff valid]
    simp only [topologicalOrder_eq_ok_iff]
    constructor
    · rintro ⟨_, schedule, success, _⟩
      exact ⟨schedule, success⟩
    · rintro ⟨schedule, success⟩
      exact ⟨_, schedule, success, rfl⟩
  · rw [← exists_schedule_iff valid]
    simp only [lower_eq_ok_iff]
    constructor
    · rintro ⟨_, schedule, success, _⟩
      exact ⟨schedule, success⟩
    · rintro ⟨schedule, success⟩
      exact ⟨_, schedule, success, rfl⟩
  · intro cyclic
    rcases graph.scheduledUnits_cases with success | ⟨cause, refused⟩
    · exact absurd ((exists_schedule_iff valid).mp success) cyclic
    · refine ⟨cause, ?_, ?_⟩
      · rw [topologicalOrder, refused, Outcome.error_bind]
      · rw [lower, refused, Outcome.error_bind]
  · intro order batches orderOk batchesOk
    obtain ⟨schedule, success, rfl⟩ := topologicalOrder_eq_ok_iff.mp orderOk
    obtain ⟨_, again, rfl⟩ := lower_eq_ok_iff.mp batchesOk
    cases success.symm.trans again
    have scheduled := schedule_of_scheduledUnits valid success
    refine ⟨scheduled.dependencyOrder valid, ?_, schedule, ?_, ?_, ?_⟩
    · rw [List.flatMap_map, List.map_flatten, List.flatMap_def]
      rfl
    · exact scheduled.perm.nodup_iff.mpr nodup_units
    · intro unit
      rw [scheduled.perm.mem_iff, mem_units_iff valid]
    · rw [List.forall₂_map_left_iff, List.forall₂_same]
      intro unit _
      exact Batch.computes_ofUnit unit

/-- The node joined first comes last, behind the two that it reads, which are bound in
the other order.  Where a node between two bound ones reads one of them and is read by the
other, the units wait for one another although no node waits for itself. -/
theorem ordered_and_lowered_bound :
    ∃ graph circular : Graph, graph.Built ∧ graph.bindings = [[7, 2]] ∧
      graph.topologicalOrder = .ok [2, 7, 3] ∧ graph.DependencyOrder [2, 7, 3] ∧
      graph.Acyclic ∧ circular.Built ∧ circular.bindings = [[4, 6]] ∧
      ¬circular.Acyclic ∧ ∃ cause, circular.lower = .error (.graph cause) := by
  let nodes : List Node := [.ofLists 3 [7, 2] [1, .ofNat 2],
    .ofLists 2 [0, 1, 0] [.ofNat 3, 1, 1], .ofLists 7 [0] [.ofNat 2]]
  let chain : List Node := [.ofLists 4 [0] [1], .ofLists 5 [4] [1], .ofLists 6 [5] [1]]
  have built : Built ⟨nodes, [[7, 2]]⟩ :=
    Valid.built ⟨by decide, by decide, by decide, by decide, by decide⟩
  have circularBuilt : Built ⟨chain, [[4, 6]]⟩ :=
    Valid.built ⟨by decide, by decide, by decide, by decide, by decide⟩
  have orderOk : topologicalOrder ⟨nodes, [[7, 2]]⟩ = .ok [2, 7, 3] := by
    decide
  have refused : lower ⟨chain, [[4, 6]]⟩ = .error (.graph .cycle) := by
    decide
  obtain ⟨ordered, lowered, _, orders⟩ := built.ordered_and_lowered
  have acyclic := ordered.mp ⟨_, orderOk⟩
  obtain ⟨batches, batchesOk⟩ := lowered.mpr acyclic
  have cyclic : ¬Acyclic ⟨chain, [[4, 6]]⟩ := by
    intro acyclic
    obtain ⟨batches, batchesOk⟩ := circularBuilt.ordered_and_lowered.2.1.mpr acyclic
    rw [refused] at batchesOk
    cases batchesOk
  exact ⟨_, _, built, rfl, orderOk, (orders _ batches orderOk batchesOk).1, acyclic,
    circularBuilt, rfl, cyclic, _, refused⟩

end Graph

end LocalRepair

import Mathlib
import LocalRepair.Graph.Basic
import LocalRepair.Proofs.Outcome

/-!
# Graphs that calls lead to

Whatever calls of `join` and `bind` succeed, every index has at most one node,
no node reads nothing or itself, and every binding names at least two produced
indices that no binding names twice.  Every graph of which this holds can be built.
-/

namespace LocalRepair

def Node.ofLists (target : Nat) (sources : List Nat) (coefficients : List GF256) : Node :=
  ⟨target, List.zipWith Term.mk sources coefficients⟩

namespace Node

@[simp]
theorem target_ofLists (target : Nat) (sources : List Nat) (coefficients : List GF256) :
    (ofLists target sources coefficients).target = target := rfl

theorem sources_ofLists {sources : List Nat} {coefficients : List GF256} (target : Nat)
    (arity : sources.length = coefficients.length) :
    (ofLists target sources coefficients).sources = sources := by
  apply List.ext_getElem
  · simp [ofLists, arity]
  · intro position _ _
    simp [ofLists, Node.sources]

theorem coefficients_ofLists {sources : List Nat} {coefficients : List GF256} (target : Nat)
    (arity : sources.length = coefficients.length) :
    (ofLists target sources coefficients).coefficients = coefficients := by
  apply List.ext_getElem
  · simp [ofLists, arity]
  · intro position _ _
    simp [ofLists, Node.coefficients]

theorem ofLists_self (node : Node) :
    ofLists node.target node.sources node.coefficients = node := by
  obtain ⟨target, terms⟩ := node
  simp [ofLists, Node.sources, Node.coefficients, List.zipWith_map]

end Node

namespace Graph

theorem join_eq_ok_iff {graph extended : Graph} {target : Nat} {sources : List Nat}
    {coefficients : List GF256} :
    graph.join target sources coefficients = .ok extended ↔
      sources ≠ [] ∧ sources.length = coefficients.length ∧ target ∉ sources ∧
        graph.produces target = false ∧
        extended = ⟨graph.nodes ++ [Node.ofLists target sources coefficients],
          graph.bindings⟩ := by
  unfold join
  split_ifs with empty arity own produced
  · simp [empty]
  · simp [arity]
  · simp [own]
  · simp [produced]
  · have absent : graph.produces target = false := by simpa using produced
    have same : sources.length = coefficients.length := by simpa using arity
    simp only [empty, same, own, absent, Except.ok.injEq, not_false_eq_true, true_and,
      ne_eq]
    exact eq_comm

/-- The graphs that successful calls lead to. -/
inductive Built : Graph → Prop where
  | empty : Built Graph.empty
  | join {graph extended : Graph} {target : Nat} {sources : List Nat}
      {coefficients : List GF256} : Built graph →
      graph.join target sources coefficients = .ok extended → Built extended
  | bind {graph extended : Graph} {targets : List Nat} : Built graph →
      graph.bind targets = .ok extended → Built extended

/-- What holds of the nodes and bindings of every such graph. -/
structure Valid (graph : Graph) : Prop where
  targets : (graph.nodes.map Node.target).Nodup
  reads : ∀ node ∈ graph.nodes, node.sources ≠ []
  notItself : ∀ node ∈ graph.nodes, node.target ∉ node.sources
  bindings : graph.bindings.flatten.Nodup
  bound : ∀ binding ∈ graph.bindings,
    2 ≤ binding.length ∧ ∀ target ∈ binding, graph.produces target = true

theorem produces_eq_false_iff {graph : Graph} {index : Nat} :
    graph.produces index = false ↔ index ∉ graph.nodes.map Node.target := by
  rw [← Bool.not_eq_true, produces_iff, List.mem_map]

theorem Valid.empty : Valid Graph.empty := by
  constructor <;> simp [Graph.empty]

theorem Valid.join {graph extended : Graph} (valid : graph.Valid) {target : Nat}
    {sources : List Nat} {coefficients : List GF256}
    (success : graph.join target sources coefficients = .ok extended) :
    extended.Valid := by
  obtain ⟨nonempty, arity, notOwn, absent, rfl⟩ := join_eq_ok_iff.mp success
  have readSources : (Node.ofLists target sources coefficients).sources = sources :=
    Node.sources_ofLists target arity
  constructor
  · rw [List.map_append, List.map_singleton, ← List.concat_eq_append, List.nodup_concat]
    exact ⟨produces_eq_false_iff.mp absent, valid.targets⟩
  · intro node member
    rcases List.mem_append.mp member with earlier | last
    · exact valid.reads node earlier
    · rw [List.mem_singleton.mp last, readSources]
      exact nonempty
  · intro node member
    rcases List.mem_append.mp member with earlier | last
    · exact valid.notItself node earlier
    · rw [List.mem_singleton.mp last, readSources, Node.target_ofLists]
      exact notOwn
  · exact valid.bindings
  · intro binding member
    obtain ⟨size, produced⟩ := valid.bound binding member
    refine ⟨size, ?_⟩
    intro bound boundMember
    obtain ⟨node, nodeMember, same⟩ := produces_iff.mp (produced bound boundMember)
    exact produces_iff.mpr ⟨node, List.mem_append_left _ nodeMember, same⟩

theorem checkBinding_eq_ok_iff {graph : Graph} {earlier targets : List Nat} :
    graph.checkBinding earlier targets = .ok () ↔
      targets.Nodup ∧ ∀ target ∈ targets, graph.produces target = true ∧
        graph.isBound target = false ∧ target ∉ earlier := by
  induction targets generalizing earlier with
  | nil => simp [checkBinding]
  | cons head tail ih =>
      unfold checkBinding
      split_ifs with unknown bound
      · simp only [Bool.not_eq_true'] at unknown
        simp [unknown]
      · simp only [Bool.or_eq_true, decide_eq_true_eq] at bound
        constructor
        · intro impossible
          cases impossible
        · rintro ⟨_, conditions⟩
          obtain ⟨_, unbound, fresh⟩ := conditions head List.mem_cons_self
          rcases bound with isBound | repeated
          · rw [isBound] at unbound
            cases unbound
          · exact absurd repeated fresh
      · simp only [Bool.not_eq_true', Bool.not_eq_false] at unknown
        simp only [Bool.or_eq_true, decide_eq_true_eq, not_or, Bool.not_eq_true] at bound
        rw [ih, List.nodup_cons]
        constructor
        · rintro ⟨distinct, conditions⟩
          have headAbsent : head ∉ tail := fun member =>
            (conditions head member).2.2 List.mem_cons_self
          refine ⟨⟨headAbsent, distinct⟩, ?_⟩
          intro target member
          rcases List.mem_cons.mp member with same | later
          · rw [same]
            exact ⟨unknown, bound⟩
          · obtain ⟨produced, unbound, fresh⟩ := conditions target later
            exact ⟨produced, unbound, fun old => fresh (List.mem_cons_of_mem head old)⟩
        · rintro ⟨⟨headAbsent, distinct⟩, conditions⟩
          refine ⟨distinct, ?_⟩
          intro target member
          obtain ⟨produced, unbound, fresh⟩ :=
            conditions target (List.mem_cons_of_mem head member)
          refine ⟨produced, unbound, ?_⟩
          intro old
          rcases List.mem_cons.mp old with same | older
          · exact headAbsent (same ▸ member)
          · exact fresh older

/-- Fewer than two targets change nothing; others are bound together if each is
produced, unbound and named once. -/
theorem bind_eq_ok_iff {graph extended : Graph} {targets : List Nat} :
    graph.bind targets = .ok extended ↔
      (targets.length < 2 ∧ extended = graph) ∨
        (2 ≤ targets.length ∧ targets.Nodup ∧
          (∀ target ∈ targets, graph.produces target = true ∧
            graph.isBound target = false) ∧
          extended = ⟨graph.nodes, graph.bindings ++ [targets]⟩) := by
  unfold bind
  split_ifs with short
  · constructor
    · intro success
      cases success
      exact .inl ⟨short, rfl⟩
    · rintro (⟨_, rfl⟩ | ⟨long, _⟩)
      · rfl
      · exact absurd short (by omega)
  · have long : 2 ≤ targets.length := by omega
    rw [Outcome.bind_eq_ok_iff]
    constructor
    · rintro ⟨⟨⟩, checked, same⟩
      obtain ⟨distinct, conditions⟩ := checkBinding_eq_ok_iff.mp checked
      cases same
      refine .inr ⟨long, distinct, ?_, rfl⟩
      intro target member
      obtain ⟨produced, unbound, _⟩ := conditions target member
      exact ⟨produced, unbound⟩
    · rintro (⟨impossible, _⟩ | ⟨_, distinct, conditions, rfl⟩)
      · exact absurd impossible short
      · refine ⟨(), checkBinding_eq_ok_iff.mpr ⟨distinct, ?_⟩, rfl⟩
        intro target member
        obtain ⟨produced, unbound⟩ := conditions target member
        exact ⟨produced, unbound, by simp⟩

theorem isBound_eq_false_iff {graph : Graph} {target : Nat} :
    graph.isBound target = false ↔ target ∉ graph.bindings.flatten := by
  simp [isBound, List.mem_flatten]

theorem Valid.bind {graph extended : Graph} (valid : graph.Valid) {targets : List Nat}
    (success : graph.bind targets = .ok extended) : extended.Valid := by
  rcases bind_eq_ok_iff.mp success with ⟨_, rfl⟩ | ⟨long, distinct, conditions, rfl⟩
  · exact valid
  · constructor
    · exact valid.targets
    · exact valid.reads
    · exact valid.notItself
    · rw [List.flatten_append, List.flatten_singleton]
      apply List.Nodup.append valid.bindings distinct
      intro target old new
      exact isBound_eq_false_iff.mp (conditions target new).2 old
    · intro binding member
      rcases List.mem_append.mp member with earlier | last
      · exact valid.bound binding earlier
      · rw [List.mem_singleton.mp last]
        exact ⟨long, fun target targetMember => (conditions target targetMember).1⟩

theorem Built.valid {graph : Graph} (built : graph.Built) : graph.Valid := by
  induction built with
  | empty => exact .empty
  | join _ success valid => exact valid.join success
  | bind _ success valid => exact valid.bind success

section

variable {α : Type} {step : Graph → α → Except Error Graph} {node : α → Node}

theorem foldlM_join {items : List α}
    (joins : ∀ item ∈ items, ∀ graph, step graph item =
      graph.join (node item).target (node item).sources (node item).coefficients)
    {graph final : Graph} (built : graph.Built)
    (success : items.foldlM step graph = .ok final) :
    final = ⟨graph.nodes ++ items.map node, graph.bindings⟩ ∧ final.Built := by
  induction items generalizing graph with
  | nil =>
      cases success
      exact ⟨by simp, built⟩
  | cons head tail ih =>
      rw [List.foldlM_cons, joins head List.mem_cons_self, Outcome.bind_eq_ok_iff] at success
      obtain ⟨middle, joined, rest⟩ := success
      obtain ⟨_, _, _, _, extension⟩ := join_eq_ok_iff.mp joined
      obtain ⟨appended, finalBuilt⟩ := ih
        (fun item member => joins item (List.mem_cons_of_mem head member))
        (built.join joined) rest
      refine ⟨?_, finalBuilt⟩
      rw [appended, extension, Node.ofLists_self]
      simp

theorem foldlM_join_eq_ok {items : List α}
    (joins : ∀ item ∈ items, ∀ graph, step graph item =
      graph.join (node item).target (node item).sources (node item).coefficients)
    (reads : ∀ item ∈ items, (node item).sources ≠ [])
    (notItself : ∀ item ∈ items, (node item).target ∉ (node item).sources)
    (graph : Graph)
    (fresh : ((graph.nodes ++ items.map node).map Node.target).Nodup) :
    items.foldlM step graph = .ok ⟨graph.nodes ++ items.map node, graph.bindings⟩ := by
  induction items generalizing graph with
  | nil => simp
  | cons head tail ih =>
      have headFresh : (node head).target ∉ graph.nodes.map Node.target := by
        intro old
        rw [List.map_append, List.map_cons, List.map_cons] at fresh
        exact List.disjoint_of_nodup_append fresh old List.mem_cons_self
      have arity : (node head).sources.length = (node head).coefficients.length := by
        simp
      have joined := join_eq_ok_iff.mpr ⟨reads head List.mem_cons_self, arity,
        notItself head List.mem_cons_self, produces_eq_false_iff.mpr headFresh, rfl⟩
      rw [Node.ofLists_self] at joined
      rw [List.foldlM_cons, joins head List.mem_cons_self, joined, Outcome.ok_bind,
        ih (fun item member => joins item (List.mem_cons_of_mem head member))
          (fun item member => reads item (List.mem_cons_of_mem head member))
          (fun item member => notItself item (List.mem_cons_of_mem head member))
          _ (by simpa using fresh)]
      simp

end

theorem Valid.built_nodes {nodes : List Node} (valid : Valid ⟨nodes, []⟩) :
    Built ⟨nodes, []⟩ := by
  let join (graph : Graph) (node : Node) : Except Error Graph :=
    graph.join node.target node.sources node.coefficients
  have joins : ∀ node ∈ nodes, ∀ graph, join graph node =
      graph.join (id node).target (id node).sources (id node).coefficients :=
    fun _ _ _ => rfl
  have success := foldlM_join_eq_ok joins valid.reads valid.notItself Graph.empty
    (by simpa [Graph.empty] using valid.targets)
  obtain ⟨_, built⟩ := foldlM_join joins .empty success
  simpa [Graph.empty] using built

theorem Valid.built {graph : Graph} (valid : graph.Valid) : graph.Built := by
  obtain ⟨nodes, bindings⟩ := graph
  induction bindings using List.reverseRecOn with
  | nil => exact valid.built_nodes
  | append_singleton earlier last ih =>
      have distinct := valid.bindings
      rw [List.flatten_append, List.flatten_singleton] at distinct
      have earlierValid : Valid ⟨nodes, earlier⟩ :=
        ⟨valid.targets, valid.reads, valid.notItself, distinct.of_append_left,
          fun binding member => valid.bound binding (List.mem_append_left _ member)⟩
      obtain ⟨size, produced⟩ := valid.bound last (by simp)
      refine (ih earlierValid).bind (bind_eq_ok_iff.mpr (.inr ⟨size, ?_, ?_, rfl⟩))
      · exact distinct.of_append_right
      · intro target member
        refine ⟨produced target member, isBound_eq_false_iff.mpr ?_⟩
        intro old
        exact List.disjoint_of_nodup_append distinct old member

end Graph

end LocalRepair

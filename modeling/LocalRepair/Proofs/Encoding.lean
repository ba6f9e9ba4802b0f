import Mathlib
import LocalRepair.Scheme.Encoding
import LocalRepair.Proofs.Construction
import LocalRepair.Proofs.GraphRun

/-!
# Encoding a stripe

A stripe that holds its data blocks can be encoded.  Afterwards it holds a
codeword at every byte position, and nothing but the parities has changed.
-/

namespace LocalRepair

/-- The stripe holds the first `k` blocks. -/
def Stripe.HoldsData (stripe : Stripe) (k : Nat) : Prop :=
  ∀ index < k, stripe.contains index = true

theorem Stripe.exists_holdsData {blockSize : Nat} (blocks : Nat → Block)
    (lengths : ∀ index, (blocks index).length = blockSize) (k : Nat) :
    ∃ stripe : Stripe, stripe.blockSize = blockSize ∧ stripe.HoldsData k ∧
      ∀ index < k, stripe.get? index = some (blocks index) := by
  induction k with
  | zero =>
      refine ⟨Stripe.empty blockSize, rfl, ?_, ?_⟩
      · intro index below
        exact absurd below (Nat.not_lt_zero _)
      · intro index below
        exact absurd below (Nat.not_lt_zero _)
  | succ k ih =>
      obtain ⟨stripe, size, _, held⟩ := ih
      obtain ⟨inserted, success⟩ :=
        Stripe.insert_eq_ok ((lengths k).trans size.symm) k
      have found : ∀ index < k + 1, inserted.get? index = some (blocks index) := by
        intro index below
        rw [Stripe.get?_of_insert success]
        split_ifs with same
        · rw [same]
        · exact held index (by omega)
      refine ⟨inserted, (Stripe.blockSize_of_insert success).trans size, ?_, found⟩
      intro index below
      exact Stripe.contains_iff.mpr ⟨_, found index below⟩

namespace Scheme

/-- The stripe holds given blocks at all indices, and their bytes at each position
are a codeword. -/
structure Stored (scheme : Scheme) (stripe : Stripe) (blocks : Nat → Block) : Prop where
  present : ∀ index < scheme.n, stripe.get? index = some (blocks index)
  codeword : ∀ position,
    scheme.shape.Codeword fun index => Block.byte (blocks index) position

/-- The node that encodes a parity. -/
def parityNode (scheme : Scheme) (parity : Nat) : Node :=
  Node.ofLists parity (List.range scheme.k)
    ((List.range scheme.k).map (scheme.shape.coefficient parity))

/-- The graph of all parity nodes, for given bindings. -/
def parityGraph (scheme : Scheme) (bindings : List (List Nat)) : Graph :=
  ⟨scheme.parities.map scheme.parityNode, bindings⟩

section

variable {scheme : Scheme} {bindings : List (List Nat)}

theorem sources_parityNode (parity : Nat) :
    (scheme.parityNode parity).sources = List.range scheme.k :=
  Node.sources_ofLists parity (by simp)

theorem coefficients_parityNode (parity : Nat) :
    (scheme.parityNode parity).coefficients =
      (List.range scheme.k).map (scheme.shape.coefficient parity) :=
  Node.coefficients_ofLists parity (by simp)

theorem mem_parities {parity : Nat} :
    parity ∈ scheme.parities ↔ scheme.k ≤ parity ∧ parity < scheme.n := by
  rw [parities, List.mem_range'_1, n, Shape.n, k]
  omega

theorem Sound.k_lt_n (sound : scheme.Sound) : scheme.k < scheme.n := by
  have groups := sound.shape.groups
  rw [n, k, Shape.n]
  omega

theorem mem_parityNodes {node : Node} :
    node ∈ (scheme.parityGraph bindings).nodes ↔
      ∃ parity ∈ scheme.parities, scheme.parityNode parity = node :=
  List.mem_map

theorem targets_parityGraph :
    (scheme.parityGraph bindings).nodes.map Node.target = scheme.parities := by
  rw [parityGraph, List.map_map]
  exact List.map_id _

theorem produces_parityGraph {index : Nat} :
    (scheme.parityGraph bindings).produces index = true ↔ index ∈ scheme.parities := by
  rw [Graph.produces_iff, ← List.mem_map, targets_parityGraph]

private theorem Sound.join_parities (sound : scheme.Sound) :
    scheme.parities.foldlM (fun graph parity => do
        graph.join parity (List.range scheme.k) (← scheme.generator.row parity)) Graph.empty =
      .ok (scheme.parityGraph []) ∧ (scheme.parityGraph []).Built := by
  have joins : ∀ parity ∈ scheme.parities, ∀ graph : Graph,
      (do graph.join parity (List.range scheme.k) (← scheme.generator.row parity)) =
        graph.join (scheme.parityNode parity).target (scheme.parityNode parity).sources
          (scheme.parityNode parity).coefficients := by
    intro parity member graph
    rw [sound.generates.row_eq (mem_parities.mp member).2, Outcome.ok_bind,
      sources_parityNode, coefficients_parityNode]
    rfl
  have reads : ∀ parity ∈ scheme.parities, (scheme.parityNode parity).sources ≠ [] := by
    intro parity _
    rw [sources_parityNode, Ne, List.range_eq_nil]
    exact sound.shape.data
  have notItself : ∀ parity ∈ scheme.parities,
      (scheme.parityNode parity).target ∉ (scheme.parityNode parity).sources := by
    intro parity member own
    rw [sources_parityNode, List.mem_range] at own
    exact absurd own (Nat.not_lt.mpr (mem_parities.mp member).1)
  have fresh : ((Graph.empty.nodes ++ scheme.parities.map scheme.parityNode).map
      Node.target).Nodup := by
    have targets : (scheme.parityGraph []).nodes.map Node.target = scheme.parities :=
      targets_parityGraph
    have distinct : scheme.parities.Nodup := List.nodup_range'
    rw [← targets] at distinct
    exact distinct
  have joined := Graph.foldlM_join_eq_ok joins reads notItself Graph.empty fresh
  exact ⟨joined, (Graph.foldlM_join joins .empty joined).2⟩

theorem Sound.encode_eq (sound : scheme.Sound) :
    ∃ bindings, scheme.encode = .ok (scheme.parityGraph bindings) ∧
      (scheme.parityGraph bindings).Valid ∧
      (scheme.parities.length < 2 ∧ bindings = [] ∨ bindings = [scheme.parities]) := by
  obtain ⟨joined, built⟩ := sound.join_parities
  have bound : ∃ bindings, (scheme.parityGraph []).bind scheme.parities =
      .ok (scheme.parityGraph bindings) ∧
        (scheme.parities.length < 2 ∧ bindings = [] ∨ bindings = [scheme.parities]) := by
    by_cases few : scheme.parities.length < 2
    · exact ⟨[], Graph.bind_eq_ok_iff.mpr (.inl ⟨few, rfl⟩), .inl ⟨few, rfl⟩⟩
    · have conditions : ∀ target ∈ scheme.parities,
          (scheme.parityGraph []).produces target = true ∧
            (scheme.parityGraph []).isBound target = false :=
        fun target member => ⟨produces_parityGraph.mpr member, rfl⟩
      exact ⟨[scheme.parities], Graph.bind_eq_ok_iff.mpr
        (.inr ⟨Nat.le_of_not_lt few, List.nodup_range', conditions, rfl⟩), .inr rfl⟩
  obtain ⟨bindings, bound, isBound⟩ := bound
  refine ⟨bindings, ?_, (built.bind bound).valid, isBound⟩
  unfold encode
  dsimp only
  rw [joined, Outcome.ok_bind, bound]

theorem exists_schedule_parityGraph
    (valid : (scheme.parityGraph bindings).Valid) :
    ∃ schedule, (scheme.parityGraph bindings).scheduledUnits = .ok schedule := by
  apply Graph.exists_schedule
  apply Graph.wellFounded_precedes (fun _ => 0) valid (fun _ _ _ _ _ _ => rfl)
  intro node member source read produced
  obtain ⟨parity, _, rfl⟩ := mem_parityNodes.mp member
  rw [sources_parityNode, List.mem_range] at read
  exact absurd read (Nat.not_lt.mpr (mem_parities.mp (produces_parityGraph.mp produced)).1)

theorem Sound.mem_inputs_parityGraph (sound : scheme.Sound) {index : Nat} :
    index ∈ (scheme.parityGraph bindings).inputs ↔ index < scheme.k := by
  rw [Graph.mem_inputs]
  constructor
  · rintro ⟨⟨node, member, read⟩, _⟩
    obtain ⟨parity, _, rfl⟩ := mem_parityNodes.mp member
    rw [sources_parityNode] at read
    exact List.mem_range.mp read
  · intro inside
    refine ⟨⟨scheme.parityNode scheme.k, ?_, ?_⟩, ?_⟩
    · exact mem_parityNodes.mpr ⟨_, mem_parities.mpr ⟨Nat.le_refl _, sound.k_lt_n⟩, rfl⟩
    · rw [sources_parityNode]
      exact List.mem_range.mpr inside
    · rw [← Bool.not_eq_true, produces_parityGraph, mem_parities]
      omega

theorem encodeStripe_eq_runGraph {graph : Graph} (encoded : scheme.encode = .ok graph)
    (stripe : Stripe) : scheme.encodeStripe stripe = stripe.runGraph scheme.n graph := by
  rw [encodeStripe, encoded]
  rfl

/-- Encoding succeeds on every stripe with all data, writes the parities only and
gives codewords. -/
theorem Sound.encodeStripe (sound : scheme.Sound) {stripe : Stripe}
    (data : stripe.HoldsData scheme.k) :
    (scheme.encodeStripe stripe).outcome = .ok () ∧
      (∀ index, index ∉ scheme.parities →
        (scheme.encodeStripe stripe).stripe.get? index = stripe.get? index) ∧
      ∃ blocks, scheme.Stored (scheme.encodeStripe stripe).stripe blocks := by
  obtain ⟨bindings, encodeOk, valid, _⟩ := sound.encode_eq
  obtain ⟨schedule, scheduled⟩ := exists_schedule_parityGraph valid
  have dataInside := sound.k_lt_n
  have inputsInside : ∀ index ∈ (scheme.parityGraph bindings).inputs, index < scheme.n :=
    fun index member => (sound.mem_inputs_parityGraph.mp member).trans dataInside
  have inputsPresent : ∀ index ∈ (scheme.parityGraph bindings).inputs,
      stripe.contains index = true :=
    fun index member => data index (sound.mem_inputs_parityGraph.mp member)
  obtain ⟨blocks, evaluation⟩ :=
    Graph.exists_evaluation valid scheduled inputsInside inputsPresent
  rw [encodeStripe_eq_runGraph encodeOk]
  have kept : ∀ index, index ∉ scheme.parities →
      (stripe.runGraph scheme.n (scheme.parityGraph bindings)).stripe.get? index =
        stripe.get? index := by
    intro index other
    apply evaluation.kept
    intro produced
    exact absurd (produces_parityGraph.mp produced) other
  have isParityNode : ∀ index, scheme.k ≤ index → index < scheme.n →
      scheme.parityNode index ∈ (scheme.parityGraph bindings).nodes := by
    intro index large inside
    exact mem_parityNodes.mpr ⟨index, mem_parities.mpr ⟨large, inside⟩, rfl⟩
  refine ⟨evaluation.outcome, kept, blocks, ?_, ?_⟩
  · intro index inside
    by_cases isData : index < scheme.k
    · rw [kept index (by rw [mem_parities]; omega)]
      exact evaluation.inputs index (sound.mem_inputs_parityGraph.mpr isData)
    · exact evaluation.written _ (isParityNode index (by omega) inside) inside
  · intro position index inside
    by_cases isData : index < scheme.k
    · rw [Shape.sum_coefficient_data isData]
    · have sum := evaluation.sums _ (isParityNode index (by omega) inside) position
      rw [parityNode, Node.value_ofLists, weightedSum_map] at sum
      exact sum

end

end Scheme

end LocalRepair

import Mathlib
import LocalRepair.Proofs.Encoding

/-!
# Restoring lost blocks

A graph restores blocks of an encoded stripe if its inputs survive and its nodes,
read as equations between the values of a codeword, leave no other solution at
the targets.
-/

namespace LocalRepair

namespace Stripe

theorem get?_removeAll (stripe : Stripe) (indices : List Nat) (index : Nat) :
    (stripe.removeAll indices).get? index =
      if index ∈ indices then none else stripe.get? index := by
  induction indices generalizing stripe with
  | nil => simp [removeAll]
  | cons head tail ih =>
      have rest := ih (stripe.remove head)
      rw [get?_remove] at rest
      change ((stripe.remove head).removeAll tail).get? index = _
      rw [rest]
      by_cases isHead : head = index
      · simp [isHead]
      · have notHead : ¬index = head := Ne.symm isHead
        simp [isHead, notHead]

theorem blockSize_removeAll (stripe : Stripe) (indices : List Nat) :
    (stripe.removeAll indices).blockSize = stripe.blockSize := by
  induction indices generalizing stripe with
  | nil => rfl
  | cons head tail ih => exact ih (stripe.remove head)

end Stripe

/-- The run succeeds, brings the targets back as they were in the original, and
changes the damaged stripe nowhere else. -/
structure Run.Restores (run : Run) (damaged original : Stripe) (targets : List Nat) :
    Prop where
  outcome : run.outcome = .ok ()
  restored : ∀ target ∈ targets, ∃ block,
    original.get? target = some block ∧ run.stripe.get? target = some block
  unchanged : ∀ index, index ∉ targets → run.stripe.get? index = damaged.get? index

/-- Every solution of the node equations that agrees with a codeword at the inputs
agrees with it at the targets. -/
def Graph.Determines (graph : Graph) (shape : Shape) (targets : List Nat) : Prop :=
  ∀ value solution : Nat → GF256, shape.Codeword value →
    (∀ index ∈ graph.inputs, solution index = value index) →
    (∀ node ∈ graph.nodes, solution node.target = node.value solution) →
    ∀ target ∈ targets, solution target = value target

namespace Scheme

/-- A graph that reads blocks outside a domain, produces the targets among the
blocks of a stripe, and determines them. -/
structure Recovers (scheme : Scheme) (domain targets : List Nat) (graph : Graph) : Prop where
  valid : graph.Valid
  scheduled : ∃ schedule, graph.scheduledUnits = .ok schedule
  survive : ∀ index ∈ graph.inputs, index < scheme.n ∧ index ∉ domain
  produced : ∀ index, index ∈ targets ↔ graph.produces index = true ∧ index < scheme.n
  determines : graph.Determines scheme.shape targets

theorem Recovers.exists_evaluation {scheme : Scheme} {domain targets : List Nat} {graph : Graph}
    (recovers : scheme.Recovers domain targets graph) {stripe : Stripe}
    (present : ∀ index ∈ graph.inputs, stripe.contains index = true) :
    ∃ blocks, graph.Evaluation scheme.n stripe (scheme.apply graph stripe) blocks := by
  obtain ⟨schedule, scheduled⟩ := recovers.scheduled
  exact Graph.exists_evaluation recovers.valid scheduled
    (fun index isInput => (recovers.survive index isInput).1) present

theorem Recovers.target_written {scheme : Scheme} {domain targets : List Nat} {graph : Graph}
    (recovers : scheme.Recovers domain targets graph) {stripe : Stripe} {run : Run}
    {blocks : Nat → Block} (evaluation : graph.Evaluation scheme.n stripe run blocks)
    {target : Nat} (member : target ∈ targets) :
    run.stripe.get? target = some (blocks target) ∧
      (blocks target).length = stripe.blockSize := by
  obtain ⟨produced, inside⟩ := (recovers.produced target).mp member
  obtain ⟨node, nodeMember, rfl⟩ := Graph.produces_iff.mp produced
  exact ⟨evaluation.written node nodeMember inside, evaluation.length node nodeMember⟩

/-- A graph that recovers targets restores them in an encoded stripe from which the
domain was removed. -/
theorem Recovers.restores {scheme : Scheme} {domain targets : List Nat} {graph : Graph}
    (recovers : scheme.Recovers domain targets graph) {encoded : Stripe}
    {blocks : Nat → Block} (stored : scheme.Stored encoded blocks) :
    (scheme.apply graph (encoded.removeAll domain)).Restores (encoded.removeAll domain)
      encoded targets := by
  have found : ∀ index ∈ graph.inputs,
      (encoded.removeAll domain).get? index = some (blocks index) := by
    intro index member
    obtain ⟨inside, alive⟩ := recovers.survive index member
    rw [Stripe.get?_removeAll, if_neg alive]
    exact stored.present index inside
  obtain ⟨computed, evaluation⟩ := recovers.exists_evaluation
    fun index member => Stripe.contains_iff.mpr ⟨_, found index member⟩
  have agree : ∀ index ∈ graph.inputs, computed index = blocks index := by
    intro index member
    have given := evaluation.inputs index member
    rw [found index member, Option.some.injEq] at given
    exact given.symm
  have solved : ∀ target ∈ targets, computed target = blocks target := by
    intro target member
    have inside := ((recovers.produced target).mp member).2
    apply Block.eq_of_byte_eq
    · rw [(recovers.target_written evaluation member).2, Stripe.blockSize_removeAll]
      exact (Stripe.length_of_get? (stored.present _ inside)).symm
    · intro position
      apply recovers.determines (fun index => Block.byte (blocks index) position)
        (fun index => Block.byte (computed index) position) (stored.codeword position)
      · intro index inputMember
        rw [agree index inputMember]
      · intro other otherMember
        exact evaluation.sums other otherMember position
      · exact member
  constructor
  · exact evaluation.outcome
  · intro target member
    have inside := ((recovers.produced target).mp member).2
    refine ⟨blocks target, stored.present _ inside, ?_⟩
    rw [← solved _ member]
    exact (recovers.target_written evaluation member).1
  · intro index other
    apply evaluation.kept
    intro indexProduced
    by_contra inside
    exact other ((recovers.produced index).mpr ⟨indexProduced, Nat.lt_of_not_le inside⟩)

/-- A graph that recovers targets restores them on every encoded stripe. -/
theorem Sound.restores_encoded {scheme : Scheme} (sound : scheme.Sound) {domain targets : List Nat}
    {graph : Graph} (recovers : scheme.Recovers domain targets graph) {stripe : Stripe}
    (data : stripe.HoldsData scheme.k) :
    (scheme.encodeStripe stripe).outcome = .ok () ∧
      (scheme.apply graph ((scheme.encodeStripe stripe).stripe.removeAll domain)).Restores
        ((scheme.encodeStripe stripe).stripe.removeAll domain)
        (scheme.encodeStripe stripe).stripe targets := by
  obtain ⟨encoded, _, blocks, stored⟩ := sound.encodeStripe data
  exact ⟨encoded, recovers.restores stored⟩

section

variable {target : Nat} {sources : List Nat} {coefficients : List GF256}

theorem produces_single {index : Nat} :
    Graph.produces ⟨[Node.ofLists target sources coefficients], []⟩ index = true ↔
      index = target := by
  rw [Graph.produces_iff]
  constructor
  · rintro ⟨node, member, rfl⟩
    rw [List.mem_singleton.mp member]
    rfl
  · rintro rfl
    exact ⟨_, List.mem_singleton.mpr rfl, rfl⟩

theorem mem_inputs_single (arity : sources.length = coefficients.length)
    (notItself : target ∉ sources) {index : Nat} :
    index ∈ Graph.inputs ⟨[Node.ofLists target sources coefficients], []⟩ ↔
      index ∈ sources := by
  rw [Graph.mem_inputs, ← Bool.not_eq_true, produces_single]
  constructor
  · rintro ⟨⟨node, member, read⟩, _⟩
    rw [List.mem_singleton.mp member, Node.sources_ofLists target arity] at read
    exact read
  · intro read
    refine ⟨⟨_, List.mem_singleton.mpr rfl, ?_⟩, ?_⟩
    · rw [Node.sources_ofLists target arity]
      exact read
    · rintro rfl
      exact notItself read

/-- A sum of survivors that gives a block in every codeword recovers the block. -/
theorem exists_recovers_join {scheme : Scheme} {domain : List Nat}
    (inside : target < scheme.n) (arity : sources.length = coefficients.length)
    (reads : sources ≠ []) (notItself : target ∉ sources)
    (survive : ∀ source ∈ sources, source < scheme.n ∧ source ∉ domain)
    (balanced : ∀ value, scheme.shape.Codeword value →
      weightedSum sources coefficients value = value target) :
    ∃ graph, Graph.empty.join target sources coefficients = .ok graph ∧
      scheme.Recovers domain [target] graph := by
  have joined := Graph.join_eq_ok_iff.mpr
    ⟨reads, arity, notItself, (rfl : Graph.empty.produces target = false), rfl⟩
  have valid := (Graph.Built.join .empty joined).valid
  refine ⟨_, joined, valid, ?_, ?_, ?_, ?_⟩
  · apply Graph.exists_schedule
    apply Graph.wellFounded_precedes (fun _ => 0) valid
    · intro binding member
      cases member
    · intro node member source read produced
      rw [List.mem_singleton.mp member, Node.sources_ofLists target arity] at read
      rw [produces_single.mp produced] at read
      exact absurd read notItself
  · intro index member
    exact survive index ((mem_inputs_single arity notItself).mp member)
  · intro index
    rw [List.mem_singleton]
    constructor
    · rintro rfl
      exact ⟨produces_single.mpr rfl, inside⟩
    · exact fun both => produces_single.mp both.1
  · intro value solution codeword agree solved index member
    have sum := solved _ (List.mem_singleton.mpr rfl)
    have known : ∀ source ∈ sources, solution source = value source :=
      fun source read => agree source ((mem_inputs_single arity notItself).mpr read)
    rw [Node.value_ofLists, weightedSum_congr known, balanced value codeword] at sum
    rw [List.mem_singleton.mp member]
    exact sum

end

end Scheme

end LocalRepair

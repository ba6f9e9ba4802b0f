import Mathlib
import LocalRepair.Stripe
import LocalRepair.Proofs.Combination
import LocalRepair.Proofs.GraphState
import LocalRepair.Proofs.NodeValue

/-!
# Blocks that indices stand for

On a stripe of width `n` an index that no node produces stands for the block of the
stripe, and an index that a node produces stands for the sum of what the sources of
the node stand for.  An index stands for one block at most, and neither bindings nor
the order in which nodes were joined have a say in it.
-/

namespace LocalRepair.Graph

/-- The block that an index stands for.  Indices that wait for themselves or for a
block that is missing stand for none. -/
inductive Denotes (graph : Graph) (n : Nat) (stripe : Stripe) : Nat → Block → Prop where
  | input {index : Nat} {block : Block} :
      graph.produces index = false →
      index < n →
      stripe.get? index = some block →
      Denotes graph n stripe index block
  | node {node : Node} {blocks : Nat → Block} {block : Block} :
      node ∈ graph.nodes →
      (∀ source ∈ node.sources, Denotes graph n stripe source (blocks source)) →
      block.length = stripe.blockSize →
      (∀ position, Block.byte block position =
        node.value fun source => Block.byte (blocks source) position) →
      Denotes graph n stripe node.target block

variable {graph : Graph} {n : Nat} {stripe : Stripe} {index : Nat} {block : Block}

theorem produces_target {node : Node} (member : node ∈ graph.nodes) :
    graph.produces node.target = true :=
  produces_iff.mpr ⟨node, member, rfl⟩

theorem denotes_input_iff (absent : graph.produces index = false) :
    graph.Denotes n stripe index block ↔ index < n ∧ stripe.get? index = some block := by
  constructor
  · intro denotes
    cases denotes with
    | input _ inside present => exact ⟨inside, present⟩
    | node member _ _ _ =>
        rw [produces_target member] at absent
        cases absent
  · rintro ⟨inside, present⟩
    exact .input absent inside present

theorem denotes_target_iff (valid : graph.Valid) {node : Node} (member : node ∈ graph.nodes) :
    graph.Denotes n stripe node.target block ↔
      ∃ blocks : Nat → Block,
        (∀ source ∈ node.sources, graph.Denotes n stripe source (blocks source)) ∧
        block.length = stripe.blockSize ∧
        ∀ position, Block.byte block position =
          node.value fun source => Block.byte (blocks source) position := by
  constructor
  · intro denotes
    generalize isTarget : node.target = index at denotes
    cases denotes with
    | input absent _ _ =>
        rw [← isTarget, produces_target member] at absent
        cases absent
    | @node other blocks _ otherMember sources length bytes =>
        have same : node = other :=
          List.inj_on_of_nodup_map valid.targets member otherMember isTarget
        subst same
        exact ⟨blocks, sources, length, bytes⟩
  · rintro ⟨blocks, sources, length, bytes⟩
    exact .node member sources length bytes

theorem Denotes.functional (valid : graph.Valid) {left right : Block}
    (first : graph.Denotes n stripe index left) (second : graph.Denotes n stripe index right) :
    left = right := by
  induction first generalizing right with
  | input absent inside present =>
      have found := ((denotes_input_iff absent).mp second).2
      rw [present] at found
      exact Option.some.inj found
  | node member sources length bytes ih =>
      obtain ⟨blocks, otherSources, otherLength, otherBytes⟩ :=
        (denotes_target_iff valid member).mp second
      apply Block.eq_of_byte_eq (length.trans otherLength.symm)
      intro position
      rw [bytes position, otherBytes position]
      apply Node.value_congr
      intro source read
      rw [ih source read (otherSources source read)]

theorem produces_eq_of_perm {other : Graph} (perm : graph.nodes.Perm other.nodes)
    (index : Nat) : graph.produces index = other.produces index := by
  rw [Bool.eq_iff_iff, produces_iff, produces_iff]
  simp only [perm.mem_iff]

theorem Denotes.of_perm {other : Graph} (perm : graph.nodes.Perm other.nodes)
    (denotes : graph.Denotes n stripe index block) : other.Denotes n stripe index block := by
  induction denotes with
  | input absent inside present =>
      rw [produces_eq_of_perm perm] at absent
      exact .input absent inside present
  | node member _ length bytes ih =>
      exact .node (perm.mem_iff.mp member) ih length bytes

end LocalRepair.Graph

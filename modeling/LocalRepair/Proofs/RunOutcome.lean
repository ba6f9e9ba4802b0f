import Mathlib
import LocalRepair.Proofs.GraphRun

/-!
# What runs come to

A run of a graph that cannot be lowered leaves the stripe alone.  Any other run
succeeds if the inputs can be read, and ends at one that cannot be read otherwise.  A
run that succeeds solves the equations of the nodes; one that does not has written some
of their blocks and nothing else.
-/

namespace LocalRepair.Graph

variable {graph other : Graph} {n : Nat} {stripe : Stripe} {workspace : Workspace}
  {finished : List Node} {run : Run}

/-- What the run of a graph on a stripe of width `n` comes to. -/
structure Executes (graph : Graph) (n : Nat) (stripe : Stripe) (run : Run) : Prop where
  succeeds : run.outcome = .ok () ↔ ∀ index ∈ graph.inputs, Available n stripe index
  missing : run.outcome ≠ .ok () → ∃ index ∈ graph.inputs, ¬Available n stripe index ∧
    run.outcome = .error (.missingBlock index)
  evaluates : run.outcome = .ok () → ∃ blocks, graph.Evaluation n stripe run blocks ∧
    ∀ node ∈ graph.nodes, graph.Denotes n stripe node.target (blocks node.target)
  blockSize : run.stripe.blockSize = stripe.blockSize
  length : ∀ (index : Nat) (block : Block), run.stripe.get? index = some block →
    block.length = stripe.blockSize
  settled : ∀ index, run.stripe.get? index = stripe.get? index ∨
    index < n ∧ graph.produces index = true ∧
      ∃ block, graph.Denotes n stripe index block ∧ run.stripe.get? index = some block

theorem Reached.available (valid : graph.Valid)
    (reached : graph.Reached n stripe finished workspace)
    (whole : ∀ node ∈ graph.nodes, node ∈ finished) :
    ∀ index ∈ graph.inputs, Available n stripe index := by
  intro index isInput
  obtain ⟨⟨node, member, read⟩, absent⟩ := mem_inputs.mp isInput
  exact available_of_denotes valid member (reached.blockAt whole member).2 index read absent

theorem executes_runGraph (valid : graph.Valid) {schedule : List (List Node)}
    (success : graph.scheduledUnits = .ok schedule) (n : Nat) (stripe : Stripe) :
    graph.Executes n stripe (stripe.runGraph n graph) := by
  obtain ⟨finished, final, reached, ends⟩ := runGraph_cases valid success n stripe
  have sized : ∀ (index : Nat) (block : Block), final.stripe.get? index = some block →
      block.length = stripe.blockSize := by
    intro index block present
    rw [Stripe.length_of_get? present, reached.frame.blockSize]
  rcases ends with ⟨whole, run⟩ | ⟨index, isInput, unavailable, run⟩ <;> rw [run]
  · constructor
    · exact iff_of_true rfl (reached.available valid whole)
    · intro failed
      exact absurd rfl failed
    · intro _
      exact ⟨_, reached.evaluation valid whole, fun node member =>
        (reached.blockAt whole member).2⟩
    · exact reached.frame.blockSize
    · exact sized
    · exact reached.settled
  · constructor
    · refine iff_of_false (by simp) ?_
      intro all
      exact unavailable (all index isInput)
    · intro _
      exact ⟨index, isInput, unavailable, rfl⟩
    · intro succeeded
      cases succeeded
    · exact reached.frame.blockSize
    · exact sized
    · exact reached.settled

theorem lower_eq_ok_iff {batches : List Batch} :
    graph.lower = .ok batches ↔
      ∃ schedule, graph.scheduledUnits = .ok schedule ∧ schedule.map Batch.ofUnit = batches := by
  rw [lower, Outcome.bind_eq_ok_iff]
  simp only [Outcome.pure_eq_ok, Except.ok.injEq]

theorem mem_inputs_of_perm (perm : graph.nodes.Perm other.nodes) (index : Nat) :
    index ∈ graph.inputs ↔ index ∈ other.inputs := by
  rw [mem_inputs, mem_inputs, produces_eq_of_perm perm]
  simp only [perm.mem_iff]

theorem Executes.outcome_iff_of_perm {otherRun : Run} (perm : graph.nodes.Perm other.nodes)
    (executes : graph.Executes n stripe run) (otherExecutes : other.Executes n stripe otherRun) :
    run.outcome = .ok () ↔ otherRun.outcome = .ok () := by
  rw [executes.succeeds, otherExecutes.succeeds]
  simp only [mem_inputs_of_perm perm]

theorem Executes.get?_eq_of_perm {otherRun : Run} (valid : graph.Valid)
    (perm : graph.nodes.Perm other.nodes) (executes : graph.Executes n stripe run)
    (otherExecutes : other.Executes n stripe otherRun) (succeeded : run.outcome = .ok ())
    (index : Nat) : run.stripe.get? index = otherRun.stripe.get? index := by
  have otherSucceeded := (executes.outcome_iff_of_perm perm otherExecutes).mp succeeded
  obtain ⟨blocks, evaluation, denotes⟩ := executes.evaluates succeeded
  obtain ⟨otherBlocks, otherEvaluation, otherDenotes⟩ := otherExecutes.evaluates otherSucceeded
  have same := produces_eq_of_perm perm index
  by_cases written : graph.produces index = true ∧ index < n
  · obtain ⟨produced, inside⟩ := written
    obtain ⟨node, member, rfl⟩ := produces_iff.mp produced
    have otherMember := perm.mem_iff.mp member
    have equal := (denotes node member).functional valid
      ((otherDenotes node otherMember).of_perm perm.symm)
    rw [evaluation.written node member inside,
      otherEvaluation.written node otherMember inside, equal]
  · rw [not_and, not_lt] at written
    rw [evaluation.kept index written, otherEvaluation.kept index (same ▸ written)]

/-- A graph that cannot be lowered leaves the stripe as it is.  The run of any other
graph solves the equations of its nodes if it can read the inputs, and neither bindings
nor the order of the nodes change what it comes to. -/
theorem Built.runGraph_executes (built : graph.Built) (n : Nat) (stripe : Stripe) :
    (∀ cause, graph.lower = .error cause →
      stripe.runGraph n graph = ⟨stripe, .error cause⟩) ∧
    ∀ batches, graph.lower = .ok batches →
      graph.Executes n stripe (stripe.runGraph n graph) ∧
      ∀ (other : Graph) (otherBatches : List Batch), other.Built →
        other.nodes.Perm graph.nodes → other.lower = .ok otherBatches →
        ((stripe.runGraph n other).outcome = .ok () ↔
          (stripe.runGraph n graph).outcome = .ok ()) ∧
        ((stripe.runGraph n other).outcome = .ok () → ∀ index,
          (stripe.runGraph n other).stripe.get? index =
            (stripe.runGraph n graph).stripe.get? index) := by
  constructor
  · intro cause refused
    rw [Stripe.runGraph, refused]
  · intro batches lowered
    obtain ⟨schedule, success, _⟩ := lower_eq_ok_iff.mp lowered
    have executes := executes_runGraph built.valid success n stripe
    refine ⟨executes, ?_⟩
    intro other otherBatches otherBuilt perm otherLowered
    obtain ⟨otherSchedule, otherSuccess, _⟩ := lower_eq_ok_iff.mp otherLowered
    have otherExecutes := executes_runGraph otherBuilt.valid otherSuccess n stripe
    exact ⟨otherExecutes.outcome_iff_of_perm perm executes,
      otherExecutes.get?_eq_of_perm otherBuilt.valid perm executes⟩

/-- Two nodes are bound, a virtual one and one that reads a block twice, and a third
reads both.  The same nodes are joined backwards and left unbound. -/
theorem runGraph_executes_bound :
    ∃ (graph backwards : Graph) (stripe : Stripe),
      graph.Built ∧ graph.bindings = [[2, 7]] ∧ graph.inputs = [0, 1] ∧
      backwards.Built ∧ backwards.nodes = graph.nodes.reverse ∧ backwards.bindings = [] ∧
      graph.Executes 4 stripe (stripe.runGraph 4 graph) ∧
      (stripe.runGraph 4 graph).outcome = .ok () ∧
      ∀ index, (stripe.runGraph 4 backwards).stripe.get? index =
        (stripe.runGraph 4 graph).stripe.get? index := by
  let nodes : List Node := [.ofLists 2 [0, 1, 0] [.ofNat 3, 1, 1],
    .ofLists 7 [0] [.ofNat 2], .ofLists 3 [7, 2] [1, .ofNat 2]]
  have built : Built ⟨nodes, [[2, 7]]⟩ :=
    Valid.built ⟨by decide, by decide, by decide, by decide, by decide⟩
  have backwardsBuilt : Built ⟨nodes.reverse, []⟩ :=
    Valid.built ⟨by decide, by decide, by decide, by decide, by decide⟩
  have inputs : inputs ⟨nodes, [[2, 7]]⟩ = [0, 1] := rfl
  obtain ⟨batches, lowered⟩ : ∃ batches, lower ⟨nodes, [[2, 7]]⟩ = .ok batches :=
    Outcome.exists_of_isOk (by decide)
  obtain ⟨backwardsBatches, backwardsLowered⟩ :
      ∃ batches, lower ⟨nodes.reverse, []⟩ = .ok batches :=
    Outcome.exists_of_isOk (by decide)
  have fits : ([5] : Block).length = (Stripe.empty 1).blockSize := rfl
  obtain ⟨first, inserted⟩ := Stripe.insert_eq_ok fits 0
  obtain ⟨stripe, both⟩ := Stripe.insert_eq_ok
    (fits.trans (Stripe.blockSize_of_insert inserted).symm) 1
  have available : ∀ index ∈ [0, 1], Available 4 stripe index := by
    intro index member
    rw [List.mem_pair] at member
    have inside : index < 4 := by omega
    refine ⟨inside, Stripe.contains_iff.mpr ⟨[5], ?_⟩⟩
    rw [Stripe.get?_of_insert both, Stripe.get?_of_insert inserted]
    rcases member with rfl | rfl <;> rfl
  obtain ⟨_, runs⟩ := built.runGraph_executes 4 stripe
  obtain ⟨executes, same⟩ := runs batches lowered
  have succeeded := executes.succeeds.mpr (inputs ▸ available)
  obtain ⟨agree, equal⟩ :=
    same _ backwardsBatches backwardsBuilt nodes.reverse_perm backwardsLowered
  exact ⟨_, _, stripe, built, rfl, inputs, backwardsBuilt, rfl, rfl, executes, succeeded,
    equal (agree.mpr succeeded)⟩

end LocalRepair.Graph

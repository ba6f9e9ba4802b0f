import Mathlib
import LocalRepair.Proofs.Maintenance
import LocalRepair.Proofs.RunOutcome

/-!
# Runs that happen whole or not at all

A run stops at the first input that is missing, and what it has written by then stays
written.  If every block that a graph writes depends on all of its inputs, then nothing
is written before all inputs have been read, so a run that stops leaves the stripe as it
was.  The graphs of decode plans and of recovered domains are of this kind.
-/

namespace LocalRepair

/-- Batches that went well are not undone by one that is refused. -/
theorem Batch.runAll_append_refused {n : Nat} {first rest : List Batch} {batch : Batch}
    {workspace written : Workspace} {cause : Error}
    (before : runAll n first workspace = (.ok (), written))
    (refused : batch.results n written = .error cause) :
    runAll n (first ++ batch :: rest) workspace = (.error cause, written) := by
  induction first generalizing workspace with
  | nil =>
      cases before
      rw [List.nil_append, runAll, refused]
  | cons head tail ih =>
      rw [runAll] at before
      rw [List.cons_append, runAll]
      cases computed : head.results n workspace with
      | error other => simp [computed] at before
      | ok results =>
          simp only [computed] at before ⊢
          cases writes : writeAll n results workspace with
          | mk outcome after =>
              rw [writes] at before
              cases outcome with
              | error other => simp at before
              | ok done => exact ih before

namespace Graph

variable {graph : Graph} {n : Nat} {stripe : Stripe}

/-- An index is computed from another one, directly or through others. -/
def DependsOn (graph : Graph) : Nat → Nat → Prop :=
  Relation.TransGen fun target source =>
    ∃ node ∈ graph.nodes, node.target = target ∧ source ∈ node.sources

/-- Every block that is written below `n` depends on all inputs. -/
def WritesLast (graph : Graph) (n : Nat) : Prop :=
  ∀ node ∈ graph.nodes, node.target < n → ∀ index ∈ graph.inputs,
    graph.DependsOn node.target index

theorem available_of_dependsOn (valid : graph.Valid) {index source : Nat}
    (depends : graph.DependsOn index source) (absent : graph.produces source = false)
    {block : Block} (denotes : graph.Denotes n stripe index block) :
    Available n stripe source := by
  induction depends using Relation.TransGen.head_induction_on generalizing block with
  | single reads =>
      obtain ⟨node, member, rfl, read⟩ := reads
      exact available_of_denotes valid member denotes source read absent
  | head reads _ ih =>
      obtain ⟨node, member, rfl, read⟩ := reads
      obtain ⟨blocks, sources, _⟩ := (denotes_target_iff valid member).mp denotes
      exact ih (sources _ read)

/-- Where every written block depends on all inputs, a run succeeds or leaves the stripe
as it was. -/
theorem WritesLast.runGraph_cases (last : graph.WritesLast n) (valid : graph.Valid)
    {schedule : List (List Node)} (success : graph.scheduledUnits = .ok schedule)
    (stripe : Stripe) :
    (stripe.runGraph n graph).outcome = .ok () ∨
      ∃ index ∈ graph.inputs, ¬Available n stripe index ∧
        stripe.runGraph n graph = ⟨stripe, .error (.missingBlock index)⟩ := by
  obtain ⟨finished, final, reached, ⟨_, run⟩ | ⟨index, isInput, unavailable, run⟩⟩ :=
    Graph.runGraph_cases valid success n stripe
  · left
    rw [run]
  · right
    -- a block of the stripe would not be finished without the missing input
    have virtual : ∀ target ∈ finished.map Node.target, n ≤ target := by
      intro target isFinished
      obtain ⟨node, member, rfl⟩ := List.mem_map.mp isFinished
      by_contra inside
      obtain ⟨block, _, denotes⟩ := reached.denotes node member
      have depends := last node (reached.subset node member) (Nat.lt_of_not_le inside) index isInput
      exact unavailable
        (available_of_dependsOn valid depends (mem_inputs.mp isInput).2 denotes)
    refine ⟨index, isInput, unavailable, ?_⟩
    rw [run, reached.frame.virtual virtual]

theorem writesLast_of_single {node : Node} (single : graph.nodes = [node]) (n : Nat) :
    graph.WritesLast n := by
  intro writer member _ index isInput
  obtain ⟨⟨reader, readerMember, read⟩, _⟩ := mem_inputs.mp isInput
  rw [single, List.mem_singleton] at readerMember
  have same : reader = writer := by
    rw [single, List.mem_singleton] at member
    rw [readerMember, member]
  exact .single ⟨writer, member, rfl, same ▸ read⟩

end Graph

namespace Scheme

variable {scheme : Scheme} {domain targets : List Nat} {graph : Graph}

/-- Graphs that a scheme returns for the recovery of blocks. -/
inductive Planned (scheme : Scheme) (graph : Graph) : Prop where
  | decode {available failed : List Nat} {strategy : Strategy}
      (success : scheme.planDecode available failed = .ok ⟨strategy, graph⟩)
  | domain {position : Nat} (success : scheme.recoverDomain position = .ok graph)
  | targets {domain targets : List Nat}
      (success : scheme.recoverTargets domain targets = .ok graph)

theorem planMaintenance_graph {available : List Nat} {failed : Nat} {strategy : Strategy}
    (success : scheme.planMaintenance available failed = .ok ⟨strategy, graph⟩) :
    failed < scheme.k ∧ (scheme.localRepair failed = .ok graph ∨
      ∃ domain, scheme.recoverTargets domain [failed] = .ok graph) := by
  unfold planMaintenance at success
  split at success
  · cases success
  · rename_i domain _
    dsimp only at success
    rw [Outcome.bind_eq_ok_iff] at success
    obtain ⟨_, _, success⟩ := success
    rw [Outcome.bind_eq_ok_iff] at success
    obtain ⟨_, isData, success⟩ := success
    refine ⟨Outcome.ensure_eq_ok_iff.mp isData, ?_⟩
    split at success <;> rw [Outcome.bind_eq_ok_iff] at success
    · obtain ⟨_, recovered, same⟩ := success
      cases same
      exact .inr ⟨domain, recovered⟩
    · obtain ⟨_, repaired, same⟩ := success
      cases same
      exact .inl repaired

theorem planDecode_graph {available failed : List Nat} {strategy : Strategy}
    (success : scheme.planDecode available failed = .ok ⟨strategy, graph⟩) :
    (∃ block < scheme.n, scheme.singleRepair block = .ok graph) ∨
      ∃ domain targets, scheme.recoverTargets domain targets = .ok graph := by
  match failed with
  | [] => cases success
  | _ :: _ :: _ => cases success
  | [block] =>
      rw [planDecode, planBlock] at success
      split at success
      · cases success
      · rename_i inside
        have blockInside : block < scheme.n := by
          simpa using List.find?_eq_none.mp inside block List.mem_cons_self
        split at success
        · rw [Outcome.bind_eq_ok_iff] at success
          obtain ⟨_, repaired, same⟩ := success
          cases same
          exact .inl ⟨block, blockInside, repaired⟩
        · obtain ⟨isData, repaired | ⟨domain, recovered⟩⟩ := planMaintenance_graph success
          · refine .inl ⟨block, blockInside, ?_⟩
            rw [singleRepair, ← k, if_pos isData]
            exact repaired
          · exact .inr ⟨domain, [block], recovered⟩

theorem recoverDomain_graph {position : Nat} (success : scheme.recoverDomain position = .ok graph) :
    ∃ domain targets, scheme.recoverTargets domain targets = .ok graph := by
  unfold recoverDomain at success
  split at success
  · cases success
  · dsimp only at success
    split at success
    · cases success
    · exact ⟨_, _, success⟩

/-- Every target is computed from all virtual indices, and every input is read by one of
these. -/
theorem SystemOf.writesLast_recoveryGraph {system : RecoverySystem} {inverse : DenseMatrix}
    (systemOf : scheme.SystemOf domain system) (lost : ∀ target ∈ targets, target ∈ system.lost) :
    (scheme.recoveryGraph system inverse targets).WritesLast scheme.n := by
  intro node member inside index isInput
  obtain ⟨item, itemMember, read⟩ := (systemOf.mem_inputs_recoveryGraph lost).mp isInput
  have isVirtual : item.1 ∈ scheme.virtuals system := (List.of_mem_zip itemMember).1
  rcases List.mem_append.mp member with isEquation | isTarget
  · obtain ⟨other, otherMember, rfl⟩ := List.mem_map.mp isEquation
    have beyond := (mem_virtuals.mp (List.of_mem_zip otherMember).1).1
    exact absurd inside (Nat.not_lt.mpr beyond)
  · obtain ⟨target, _, rfl⟩ := List.mem_map.mp isTarget
    have reads : item.1 ∈ (scheme.targetNode system inverse target).sources := by
      rw [targetNode_sources]
      exact isVirtual
    exact .head ⟨_, member, rfl, reads⟩ (.single
      ⟨equationNode item, List.mem_append_left _ (List.mem_map_of_mem itemMember), rfl, read⟩)

/-- A graph that is returned reads blocks of the stripe only, and writes after reading. -/
theorem Planned.recovers (planned : scheme.Planned graph) (sound : scheme.Sound) :
    ∃ domain targets, scheme.Recovers domain targets graph ∧ graph.WritesLast scheme.n := by
  have cases : (∃ block < scheme.n, scheme.singleRepair block = .ok graph) ∨
      ∃ domain targets, scheme.recoverTargets domain targets = .ok graph := by
    cases planned with
    | decode success => exact planDecode_graph success
    | domain success => exact .inr (recoverDomain_graph success)
    | targets success => exact .inr ⟨_, _, success⟩
  rcases cases with ⟨block, inside, repaired⟩ | ⟨domain, targets, success⟩
  · obtain ⟨found, node, success, single, _, _, _, recovers⟩ := sound.exists_singleRepair inside
    cases repaired.symm.trans success
    exact ⟨_, _, recovers, Graph.writesLast_of_single single _⟩
  · refine ⟨domain, targets, (sound.recovers_of_recoverTargets success).2, ?_⟩
    obtain ⟨system, inverse, _, _, systemOf, _, lost, rfl, _⟩ :=
      sound.recoverTargets_eq_recoveryGraph success
    exact systemOf.writesLast_recoveryGraph lost

/-- The graph of a plan is applied whole if all its inputs are present: every index of the
stripe that it produces then holds the value of its node, and no other index changes.  If an
input is missing, it is named and the stripe stays as it is.  For other graphs what was written
before a batch is refused stays written. -/
theorem apply_all_or_nothing (constructed : scheme.Constructed) (planned : scheme.Planned graph)
    (stripe : Stripe) :
    ((scheme.apply graph stripe).outcome = .ok () ↔
      ∀ index ∈ graph.inputs, stripe.contains index = true) ∧
    ((∃ index ∈ graph.inputs, stripe.contains index = false) →
      ∃ index ∈ graph.inputs, stripe.contains index = false ∧
        scheme.apply graph stripe = ⟨stripe, .error (.missingBlock index)⟩) ∧
    ((scheme.apply graph stripe).outcome = .ok () →
      (∃ blocks, graph.Evaluation scheme.n stripe (scheme.apply graph stripe) blocks) ∧
      ∀ index, (graph.produces index = true → scheme.n ≤ index) →
        (scheme.apply graph stripe).stripe.get? index = stripe.get? index) ∧
    ∀ (other : Graph) (first rest : List Batch) (batch : Batch) (written : Workspace)
        (cause : Error), other.lower = .ok (first ++ batch :: rest) →
      Batch.runAll scheme.n first ⟨stripe, ∅⟩ = (.ok (), written) →
      batch.results scheme.n written = .error cause →
      scheme.apply other stripe = ⟨written.stripe, .error cause⟩ := by
  obtain ⟨domain, targets, recovers, last⟩ := planned.recovers constructed.sound
  obtain ⟨schedule, success⟩ := recovers.scheduled
  have executes := Graph.executes_runGraph recovers.valid success scheme.n stripe
  have available : ∀ index ∈ graph.inputs,
      (Graph.Available scheme.n stripe index ↔ stripe.contains index = true) :=
    fun index isInput => and_iff_right (recovers.survive index isInput).1
  have succeeds : (scheme.apply graph stripe).outcome = .ok () ↔
      ∀ index ∈ graph.inputs, stripe.contains index = true := by
    rw [apply, executes.succeeds]
    exact forall₂_congr available
  refine ⟨succeeds, ?_, ?_, ?_⟩
  · rintro ⟨absent, isAbsent, missing⟩
    rcases last.runGraph_cases recovers.valid success stripe with
      succeeded | ⟨index, isInput, unavailable, run⟩
    · have present := succeeds.mp succeeded absent isAbsent
      rw [missing] at present
      cases present
    · refine ⟨index, isInput, ?_, run⟩
      rw [available index isInput] at unavailable
      simpa using unavailable
  · intro succeeded
    obtain ⟨blocks, evaluation, _⟩ := executes.evaluates succeeded
    exact ⟨⟨blocks, evaluation⟩, evaluation.kept⟩
  · intro other first rest batch written cause lowered before refused
    rw [apply, Stripe.runGraph, lowered]
    dsimp only
    rw [Stripe.runBatches, Batch.runAll_append_refused before refused]

private theorem exists_copy_refused {stripe : Stripe} (present : stripe.get? 2 = some [7])
    (missing : stripe.get? 3 = none) :
    ∃ written block, written.stripe.get? 0 = some block ∧
      Batch.runAll 4 [Batch.ofUnit [.ofLists 0 [2] [1]]] ⟨stripe, ∅⟩ = (.ok (), written) ∧
      (Batch.ofUnit [.ofLists 1 [3] [1]]).results 4 written = .error (.missingBlock 3) := by
  have sized : Workspace.Sized ⟨stripe, ∅⟩ := by
    intro index block virtual
    simp at virtual
  have supplied : Batch.Supplied ⟨stripe, ∅⟩ 4 [.ofLists 0 [2] [1]] := by
    intro node member source read
    rw [List.mem_singleton.mp member] at read
    have isSecond : source = 2 := by simpa [Node.ofLists, Node.sources] using read
    exact ⟨[7], by simp [isSecond, Workspace.get?, present]⟩
  obtain ⟨written, frame, found, first⟩ := Batch.runAll_ofUnit sized supplied
    ⟨_, List.mem_singleton.mpr rfl, by decide⟩ (by simp)
  have notCopied : written.get? 4 3 = none := by
    rw [frame.kept 3 (by simp)]
    simp [Workspace.get?, missing]
  have children : (Batch.ofUnit [.ofLists 1 [3] [1]]).children = [3] := by decide
  refine ⟨written, _, found _ (List.mem_singleton.mpr rfl), first [], ?_⟩
  rw [Batch.results, Batch.inputs, children, List.mapM_cons, notCopied]
  rfl

/-- With one of the two parities missing, the recovery of a cluster writes nothing.  A
graph that copies one parity and then the other keeps the first copy. -/
theorem apply_all_or_nothing_missing :
    ∃ (scheme : Scheme) (graph copies : Graph) (stripe : Stripe) (block : Block),
      Scheme.tradeoff 2 1 1 1 .maintenance = .ok scheme ∧ scheme.recoverDomain 0 = .ok graph ∧
      graph.inputs = [2, 3] ∧ copies.inputs = [2, 3] ∧ stripe.get? 2 = some [7] ∧
      scheme.apply graph stripe = ⟨stripe, .error (.missingBlock 3)⟩ ∧
      (scheme.apply copies stripe).outcome = .error (.missingBlock 3) ∧
      stripe.get? 0 = none ∧ (scheme.apply copies stripe).stripe.get? 0 = some block := by
  obtain ⟨scheme, built, width, recovered⟩ : ∃ scheme,
      Scheme.tradeoff 2 1 1 1 .maintenance = .ok scheme ∧ scheme.n = 4 ∧
        (scheme.recoverDomain 0).map Graph.inputs = .ok [2, 3] :=
    ⟨_, rfl, by decide +kernel⟩
  obtain ⟨graph, success, inputs⟩ : ∃ graph, scheme.recoverDomain 0 = .ok graph ∧
      graph.inputs = [2, 3] := by
    cases outcome : scheme.recoverDomain 0 with
    | error cause => simp [outcome, Except.map] at recovered
    | ok graph => exact ⟨graph, rfl, by simpa [outcome, Except.map] using recovered⟩
  obtain ⟨stripe, inserted⟩ := Stripe.insert_eq_ok
    (show ([7] : Block).length = (Stripe.empty 1).blockSize from rfl) 2
  have held : ∀ index, stripe.get? index = if 2 = index then some [7] else none := by
    intro index
    rw [Stripe.get?_of_insert inserted, Stripe.get?_empty]
  have contains : ∀ index, stripe.contains index = true ↔ 2 = index := by
    intro index
    rw [Stripe.contains_iff, held]
    split_ifs with same <;> simp [same]
  obtain ⟨_, refused, _, stays⟩ :=
    apply_all_or_nothing (.tradeoff built) (.domain success) stripe
  have missing : stripe.contains 3 = false := by simp [← Bool.not_eq_true, contains]
  obtain ⟨index, isInput, absent, run⟩ := refused ⟨3, by simp [inputs], missing⟩
  have isThird : index = 3 := by
    rw [← Bool.not_eq_true, contains] at absent
    rw [inputs, List.mem_pair] at isInput
    omega
  have lowered : Graph.lower ⟨[.ofLists 0 [2] [1], .ofLists 1 [3] [1]], []⟩ =
      .ok ([Batch.ofUnit [.ofLists 0 [2] [1]]] ++ [Batch.ofUnit [.ofLists 1 [3] [1]]]) := by
    decide
  obtain ⟨written, block, copied, first, stops⟩ := exists_copy_refused (held 2) (held 3)
  rw [← width] at first stops
  have kept := stays _ _ _ _ _ _ lowered first stops
  refine ⟨scheme, graph, ⟨[.ofLists 0 [2] [1], .ofLists 1 [3] [1]], []⟩, stripe, block, built,
    success, inputs, by decide, held 2, isThird ▸ run, ?_, held 0, ?_⟩
  · rw [kept]
  · rw [kept]
    exact copied

end Scheme

end LocalRepair

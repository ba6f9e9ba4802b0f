import Mathlib
import LocalRepair.Proofs.Denotation
import LocalRepair.Proofs.Execution
import LocalRepair.Proofs.Schedule

/-!
# Runs of graphs

After some units of a schedule have run, the nodes of these units hold the blocks that
they stand for, and nothing else has changed.  The next unit extends this to its own
nodes, unless it reads an input that is missing.  Where all inputs can be read the run
goes through all units, and afterwards every node holds the sum of what its sources
hold.
-/

namespace LocalRepair

namespace Graph

/-- What a run of the graph on a stripe of width `n` leaves, with the blocks that
the nodes hold in the end. -/
structure Evaluation (graph : Graph) (n : Nat) (stripe : Stripe) (run : Run)
    (blocks : Nat → Block) : Prop where
  outcome : run.outcome = .ok ()
  inputs : ∀ index ∈ graph.inputs, stripe.get? index = some (blocks index)
  written : ∀ node ∈ graph.nodes, node.target < n →
    run.stripe.get? node.target = some (blocks node.target)
  kept : ∀ index, (graph.produces index = true → n ≤ index) →
    run.stripe.get? index = stripe.get? index
  length : ∀ node ∈ graph.nodes, (blocks node.target).length = stripe.blockSize
  sums : ∀ node ∈ graph.nodes, ∀ position, Block.byte (blocks node.target) position =
    node.value fun source => Block.byte (blocks source) position

variable {graph : Graph} {n : Nat} {stripe : Stripe} {workspace : Workspace}
  {finished unit : List Node}

/-- The workspace in which the nodes of a graph have been computed that are finished. -/
structure Reached (graph : Graph) (n : Nat) (stripe : Stripe) (finished : List Node)
    (workspace : Workspace) : Prop where
  frame : Workspace.Frame n (finished.map Node.target) ⟨stripe, ∅⟩ workspace
  subset : ∀ node ∈ finished, node ∈ graph.nodes
  denotes : ∀ node ∈ finished, ∃ block, workspace.get? n node.target = some block ∧
    graph.Denotes n stripe node.target block

theorem Reached.start : graph.Reached n stripe [] ⟨stripe, ∅⟩ where
  frame := Workspace.Frame.refl n _
  subset _ member := absurd member List.not_mem_nil
  denotes _ member := absurd member List.not_mem_nil

theorem Reached.sized (reached : graph.Reached n stripe finished workspace) :
    workspace.Sized := by
  apply reached.frame.sized
  intro index block virtual
  simp at virtual

theorem Reached.get?_input (reached : graph.Reached n stripe finished workspace) {index : Nat}
    (absent : graph.produces index = false) :
    workspace.get? n index = if index < n then stripe.get? index else none := by
  have outside : index ∉ finished.map Node.target := by
    intro written
    obtain ⟨node, member, rfl⟩ := List.mem_map.mp written
    rw [produces_target (reached.subset node member)] at absent
    cases absent
  rw [reached.frame.kept index outside]
  simp [Workspace.get?]

theorem Reached.settled (reached : graph.Reached n stripe finished workspace) (index : Nat) :
    workspace.stripe.get? index = stripe.get? index ∨
      index < n ∧ graph.produces index = true ∧
        ∃ block, graph.Denotes n stripe index block ∧
          workspace.stripe.get? index = some block := by
  by_cases inside : index < n
  · by_cases written : index ∈ finished.map Node.target
    · obtain ⟨node, member, rfl⟩ := List.mem_map.mp written
      obtain ⟨block, present, denotes⟩ := reached.denotes node member
      rw [Workspace.get?, if_pos inside] at present
      exact .inr ⟨inside, produces_target (reached.subset node member), block, denotes, present⟩
    · have kept := reached.frame.kept index written
      rw [Workspace.get?, Workspace.get?, if_pos inside, if_pos inside] at kept
      exact .inl kept
  · exact .inl (reached.frame.beyond index (Nat.le_of_not_lt inside))

/-- A unit that comes next in a schedule when some nodes are finished. -/
structure Follows (graph : Graph) (finished unit : List Node) : Prop where
  nodes : ∀ node ∈ unit, node ∈ graph.nodes
  distinct : ((finished ++ unit).map Node.target).Nodup
  reads : ∃ node ∈ unit, node.sources ≠ []
  sources : ∀ node ∈ unit, ∀ source ∈ node.sources, graph.produces source = true →
    source ∈ finished.map Node.target

theorem Schedule.follows (valid : graph.Valid) {before after : List (List Node)}
    (scheduled : graph.Schedule (before ++ unit :: after)) :
    graph.Follows before.flatten unit := by
  have nodesPerm := scheduled.perm.flatten.trans (flatten_units_perm valid)
  constructor
  · intro node member
    rw [← nodesPerm.mem_iff]
    simp [member]
  · have distinct := (nodesPerm.map Node.target).nodup_iff.mpr valid.targets
    rw [List.flatten_append, List.flatten_cons, ← List.append_assoc, List.map_append] at distinct
    exact distinct.of_append_left
  · have inUnits : unit ∈ graph.units := scheduled.perm.mem_iff.mp (by simp)
    obtain ⟨node, nodeMember, rfl⟩ := mem_units.mp inUnits
    exact ⟨node, mem_unitOf_self nodeMember, valid.reads node nodeMember⟩
  · intro node member source read produced
    obtain ⟨producer, producerMember, rfl⟩ :=
      scheduled.ordered before unit after rfl node member source read produced
    exact List.mem_map_of_mem producerMember

/-- An input can be read if the stripe holds it below its width. -/
def Available (n : Nat) (stripe : Stripe) (index : Nat) : Prop :=
  index < n ∧ stripe.contains index = true

section

variable (reached : graph.Reached n stripe finished workspace)
  (follows : graph.Follows finished unit)

include reached follows

theorem Reached.exists_source
    (available : ∀ node ∈ unit, ∀ source ∈ node.sources, graph.produces source = false →
      Available n stripe source) :
    ∀ node ∈ unit, ∀ source ∈ node.sources, ∃ block,
      workspace.get? n source = some block ∧ graph.Denotes n stripe source block := by
  intro node member source read
  cases produced : graph.produces source with
  | true =>
      obtain ⟨producer, producerMember, rfl⟩ :=
        List.mem_map.mp (follows.sources node member source read produced)
      exact reached.denotes producer producerMember
  | false =>
      obtain ⟨inside, present⟩ := available node member source read produced
      obtain ⟨block, found⟩ := Stripe.contains_iff.mp present
      refine ⟨block, ?_, .input produced inside found⟩
      rw [reached.get?_input produced, if_pos inside, found]

theorem Reached.step
    (available : ∀ node ∈ unit, ∀ source ∈ node.sources, graph.produces source = false →
      Available n stripe source) :
    ∃ after, graph.Reached n stripe (finished ++ unit) after ∧
      ∀ rest, Batch.runAll n (Batch.ofUnit unit :: rest) workspace =
        Batch.runAll n rest after := by
  have atHand := reached.exists_source follows available
  have supplied : Batch.Supplied workspace n unit := by
    intro node member source read
    obtain ⟨block, found, _⟩ := atHand node member source read
    exact ⟨block, found⟩
  have distinct := follows.distinct
  rw [List.map_append] at distinct
  obtain ⟨after, frame, found, run⟩ :=
    Batch.runAll_ofUnit reached.sized supplied follows.reads distinct.of_append_right
  refine ⟨after, ⟨?_, ?_, ?_⟩, run⟩
  · rw [List.map_append]
    exact reached.frame.trans frame
  · exact List.forall_mem_append.mpr ⟨reached.subset, follows.nodes⟩
  · intro node member
    rcases List.mem_append.mp member with old | new
    · obtain ⟨block, present, denotes⟩ := reached.denotes node old
      have untouched : node.target ∉ unit.map Node.target :=
        List.disjoint_of_nodup_append distinct (List.mem_map_of_mem old)
      exact ⟨block, (frame.kept _ untouched).trans present, denotes⟩
    · have sources : ∀ source ∈ node.sources,
          graph.Denotes n stripe source (workspace.blockAt n source) := by
        intro source read
        obtain ⟨block, present, denotes⟩ := atHand node new source read
        rw [Workspace.blockAt_of_get? present]
        exact denotes
      have length := Batch.length_computed reached.sized supplied node
      rw [reached.frame.blockSize] at length
      exact ⟨_, found node new, .node (follows.nodes node new) sources length
        (Batch.byte_computed reached.sized supplied new)⟩

theorem Reached.stuck
    (lacks : ∃ node ∈ unit, ∃ source ∈ node.sources, graph.produces source = false ∧
      ¬Available n stripe source) :
    ∃ index ∈ graph.inputs, ¬Available n stripe index ∧
      ∀ rest, Batch.runAll n (Batch.ofUnit unit :: rest) workspace =
        (.error (.missingBlock index), workspace) := by
  have absent : ∀ index, graph.produces index = false → (workspace.get? n index = none ↔
      ¬Available n stripe index) := by
    intro index notProduced
    rw [reached.get?_input notProduced, Available, Stripe.contains_iff,
      ← Option.isSome_iff_exists]
    by_cases inside : index < n <;> simp [inside]
  obtain ⟨node, member, source, read, notProduced, unavailable⟩ := lacks
  obtain ⟨index, childMember, missing, refused⟩ : ∃ index ∈ (Batch.ofUnit unit).children,
      workspace.get? n index = none ∧
        (Batch.ofUnit unit).inputs n workspace = .error (.missingBlock index) := by
    rcases Batch.inputs_cases (Batch.ofUnit unit) n workspace with all | missing
    · obtain ⟨block, present⟩ := all source (Batch.mem_children.mpr ⟨node, member, read⟩)
      rw [(absent source notProduced).mpr unavailable] at present
      cases present
    · obtain ⟨before, index, after, division, _, missing, refused⟩ := missing
      exact ⟨index, by simp [division], missing, refused⟩
  obtain ⟨reader, readerMember, isRead⟩ := Batch.mem_children.mp childMember
  have indexNotProduced : graph.produces index = false := by
    by_contra produced
    obtain ⟨producer, producerMember, rfl⟩ := List.mem_map.mp
      (follows.sources reader readerMember index isRead (by simpa using produced))
    obtain ⟨block, present, _⟩ := reached.denotes producer producerMember
    rw [missing] at present
    cases present
  refine ⟨index, ?_, (absent index indexNotProduced).mp missing, ?_⟩
  · exact mem_inputs.mpr ⟨⟨reader, follows.nodes reader readerMember, isRead⟩, indexNotProduced⟩
  · intro rest
    rw [Batch.runAll, Batch.results, refused, Outcome.error_bind]

end

/-- The units that are left run to the end, or up to one that lacks an input. -/
theorem Reached.run (valid : graph.Valid) (before : List (List Node)) {rest : List (List Node)}
    (scheduled : graph.Schedule (before ++ rest))
    (reached : graph.Reached n stripe before.flatten workspace) :
    ∃ finished final, graph.Reached n stripe finished final ∧
      ((∀ node ∈ graph.nodes, node ∈ finished) ∧
          Batch.runAll n (rest.map Batch.ofUnit) workspace = (.ok (), final) ∨
        ∃ index ∈ graph.inputs, ¬Available n stripe index ∧
          Batch.runAll n (rest.map Batch.ofUnit) workspace =
            (.error (.missingBlock index), final)) := by
  -- The units that have run move to the end of `before`, so the schedule stays the same list.
  induction rest generalizing before workspace with
  | nil =>
      refine ⟨before.flatten, workspace, reached, .inl ⟨?_, rfl⟩⟩
      intro node member
      have nodesPerm := scheduled.perm.flatten.trans (flatten_units_perm valid)
      rw [List.append_nil] at nodesPerm
      exact nodesPerm.mem_iff.mpr member
  | cons unit rest ih =>
      have follows := scheduled.follows valid
      by_cases lacks : ∃ node ∈ unit, ∃ source ∈ node.sources,
          graph.produces source = false ∧ ¬Available n stripe source
      · obtain ⟨index, isInput, unavailable, ends⟩ := reached.stuck follows lacks
        exact ⟨_, workspace, reached, .inr ⟨index, isInput, unavailable, ends _⟩⟩
      · push Not at lacks
        obtain ⟨after, afterReached, goesOn⟩ := reached.step follows lacks
        have division : before ++ unit :: rest = (before ++ [unit]) ++ rest := by simp
        have flat : before.flatten ++ unit = (before ++ [unit]).flatten := by simp
        rw [division] at scheduled
        rw [flat] at afterReached
        rw [List.map_cons, goesOn]
        exact ih _ scheduled afterReached

/-- A run finishes some nodes: all of them, or those before an input that is missing. -/
theorem runGraph_cases (valid : graph.Valid) {schedule : List (List Node)}
    (success : graph.scheduledUnits = .ok schedule) (n : Nat) (stripe : Stripe) :
    ∃ finished final, graph.Reached n stripe finished final ∧
      ((∀ node ∈ graph.nodes, node ∈ finished) ∧
          stripe.runGraph n graph = ⟨final.stripe, .ok ()⟩ ∨
        ∃ index ∈ graph.inputs, ¬Available n stripe index ∧
          stripe.runGraph n graph = ⟨final.stripe, .error (.missingBlock index)⟩) := by
  have scheduled := schedule_of_scheduledUnits valid success
  have isRun : stripe.runGraph n graph = stripe.runBatches n (schedule.map Batch.ofUnit) := by
    rw [Stripe.runGraph, lower, success]
    rfl
  obtain ⟨finished, final, reached, ends⟩ :=
    Reached.run valid [] scheduled Reached.start
  refine ⟨finished, final, reached, ?_⟩
  rw [isRun, Stripe.runBatches]
  rcases ends with ⟨whole, run⟩ | ⟨index, isInput, unavailable, run⟩
  · exact .inl ⟨whole, by rw [run]⟩
  · exact .inr ⟨index, isInput, unavailable, by rw [run]⟩

theorem available_of_denotes (valid : graph.Valid) {node : Node} (member : node ∈ graph.nodes)
    {block : Block} (denotes : graph.Denotes n stripe node.target block) :
    ∀ source ∈ node.sources, graph.produces source = false → Available n stripe source := by
  intro source read absent
  obtain ⟨blocks, sources, _⟩ := (denotes_target_iff valid member).mp denotes
  obtain ⟨inside, present⟩ := (denotes_input_iff absent).mp (sources source read)
  exact ⟨inside, Stripe.contains_iff.mpr ⟨_, present⟩⟩

theorem Reached.blockAt (reached : graph.Reached n stripe finished workspace)
    (whole : ∀ node ∈ graph.nodes, node ∈ finished) {node : Node} (member : node ∈ graph.nodes) :
    workspace.get? n node.target = some (workspace.blockAt n node.target) ∧
      graph.Denotes n stripe node.target (workspace.blockAt n node.target) := by
  obtain ⟨block, present, denotes⟩ := reached.denotes node (whole node member)
  rw [Workspace.blockAt_of_get? present]
  exact ⟨present, denotes⟩

theorem Reached.denotes_source (valid : graph.Valid)
    (reached : graph.Reached n stripe finished workspace)
    (whole : ∀ node ∈ graph.nodes, node ∈ finished) {node : Node} (member : node ∈ graph.nodes) :
    ∀ source ∈ node.sources, graph.Denotes n stripe source (workspace.blockAt n source) := by
  intro source read
  cases produced : graph.produces source with
  | true =>
      obtain ⟨producer, producerMember, rfl⟩ := produces_iff.mp produced
      exact (reached.blockAt whole producerMember).2
  | false =>
      obtain ⟨inside, present⟩ :=
        available_of_denotes valid member (reached.blockAt whole member).2 source read produced
      obtain ⟨block, found⟩ := Stripe.contains_iff.mp present
      have kept := reached.get?_input produced
      rw [if_pos inside, found] at kept
      rw [Workspace.blockAt_of_get? kept]
      exact .input produced inside found

/-- With all nodes finished, the workspace is an evaluation of the graph. -/
theorem Reached.evaluation (valid : graph.Valid)
    (reached : graph.Reached n stripe finished workspace)
    (whole : ∀ node ∈ graph.nodes, node ∈ finished) :
    graph.Evaluation n stripe ⟨workspace.stripe, .ok ()⟩ (workspace.blockAt n) := by
  constructor
  · rfl
  · intro index isInput
    obtain ⟨⟨node, member, read⟩, absent⟩ := mem_inputs.mp isInput
    exact ((denotes_input_iff absent).mp
      (reached.denotes_source valid whole member index read)).2
  · intro node member inside
    have present := (reached.blockAt whole member).1
    rw [Workspace.get?, if_pos inside] at present
    exact present
  · intro index virtual
    rcases reached.settled index with same | ⟨inside, produced, _⟩
    · exact same
    · exact absurd (virtual produced) (Nat.not_le_of_lt inside)
  · intro node member
    obtain ⟨_, _, length, _⟩ :=
      (denotes_target_iff valid member).mp (reached.blockAt whole member).2
    exact length
  · intro node member position
    obtain ⟨blocks, sources, _, bytes⟩ :=
      (denotes_target_iff valid member).mp (reached.blockAt whole member).2
    rw [bytes position]
    apply Node.value_congr
    intro source read
    rw [(sources source read).functional valid
      (reached.denotes_source valid whole member source read)]

theorem exists_evaluation (valid : graph.Valid) {schedule : List (List Node)}
    (success : graph.scheduledUnits = .ok schedule)
    (inside : ∀ index ∈ graph.inputs, index < n)
    (present : ∀ index ∈ graph.inputs, stripe.contains index = true) :
    ∃ blocks, graph.Evaluation n stripe (stripe.runGraph n graph) blocks := by
  obtain ⟨finished, final, reached, ⟨whole, run⟩ | ⟨index, isInput, unavailable, _⟩⟩ :=
    runGraph_cases valid success n stripe
  · rw [run]
    exact ⟨_, reached.evaluation valid whole⟩
  · exact absurd ⟨inside index isInput, present index isInput⟩ unavailable

end Graph

end LocalRepair

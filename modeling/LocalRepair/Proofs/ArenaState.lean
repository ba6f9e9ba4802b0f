import Mathlib
import LocalRepair.Graph.Arena
import LocalRepair.Proofs.GraphState

/-!
# Arenas that calls lead to

The indexes of an arena stay in step with its nodes and bindings, whatever calls are made
and whether they succeed or not, so every call answers as it would on the graph alone, and
a node is found where a search would find it.  A call that is refused leaves the whole
arena as it is.
-/

namespace LocalRepair

theorem getElem?_append_singleton_iff {α : Type} {list : List α} {last item : α}
    {position : Nat} :
    (list ++ [last])[position]? = some item ↔
      list[position]? = some item ∨ position = list.length ∧ last = item := by
  rcases Nat.lt_trichotomy position list.length with before | rfl | behind
  · simp [List.getElem?_append_left before, Nat.ne_of_lt before]
  · simp
  · have nothing : list[position]? = none := List.getElem?_eq_none (Nat.le_of_lt behind)
    have past : (list ++ [last])[position]? = none := by
      apply List.getElem?_eq_none
      simpa using behind
    simp [nothing, past, Nat.ne_of_gt behind]

namespace Edit

variable {α β : Type}

@[simp]
theorem apply_pure (value : α) (arena : Arena) :
    (pure value : Edit α).apply arena = (.ok value, arena) := rfl

@[simp]
theorem apply_throw (cause : Error) (arena : Arena) :
    (throw cause : Edit α).apply arena = (.error cause, arena) := rfl

@[simp]
theorem apply_get (arena : Arena) : (get : Edit Arena).apply arena = (.ok arena, arena) := rfl

@[simp]
theorem apply_modify (change : Arena → Arena) (arena : Arena) :
    (modify change : Edit Unit).apply arena = (.ok (), change arena) := rfl

@[simp]
theorem apply_attempt (outcome : Except Error α) (arena : Arena) :
    (attempt outcome).apply arena = (outcome, arena) := by
  cases outcome <;> rfl

theorem apply_bind (edit : Edit α) (next : α → Edit β) (arena : Arena) :
    (edit >>= next).apply arena =
      match edit.apply arena with
      | (.ok value, after) => (next value).apply after
      | (.error cause, after) => (.error cause, after) := by
  unfold apply
  rw [ExceptT.run_bind, StateT.run_bind, Id.run_bind]
  generalize (edit.run.run arena).run = result
  obtain ⟨outcome, after⟩ := result
  cases outcome <;> rfl

end Edit

namespace Arena

variable {arena : Arena} {target : Nat}

/-- The indexes hold the positions of the nodes and the bindings, and nothing else. -/
structure InStep (arena : Arena) : Prop where
  handles : ∀ target handle : Nat, arena.handles[target]? = some handle ↔
    (arena.nodes.map Node.target)[handle]? = some target
  bound : ∀ target position : Nat, arena.bound[target]? = some position ↔
    ∃ binding, arena.bindings[position]? = some binding ∧ target ∈ binding

/-! ## What the indexes say -/

theorem InStep.mem_handles_iff (inStep : arena.InStep) :
    target ∈ arena.handles ↔ arena.toGraph.produces target = true := by
  rw [Std.TreeMap.mem_iff_isSome_getElem?, Option.isSome_iff_exists, Graph.produces_iff,
    ← List.mem_map, List.mem_iff_getElem?]
  simp only [inStep.handles]

theorem InStep.mem_bound_iff (inStep : arena.InStep) :
    target ∈ arena.bound ↔ arena.toGraph.isBound target = true := by
  rw [Std.TreeMap.mem_iff_isSome_getElem?, Option.isSome_iff_exists]
  simp only [inStep.bound, Graph.isBound, List.any_eq_true, decide_eq_true_eq,
    List.mem_iff_getElem?]
  constructor
  · rintro ⟨position, binding, isBinding, member⟩
    exact ⟨binding, ⟨position, isBinding⟩, member⟩
  · rintro ⟨binding, ⟨position, isBinding⟩, member⟩
    exact ⟨position, binding, isBinding, member⟩

theorem InStep.handle_eq_iff (inStep : arena.InStep) {other left right : Nat}
    (stored : arena.handles[target]? = some left)
    (otherStored : arena.handles[other]? = some right) : left = right ↔ target = other := by
  constructor
  · intro same
    subst same
    have isOther := (inStep.handles other left).mp otherStored
    rw [(inStep.handles target left).mp stored] at isOther
    exact Option.some.inj isOther
  · intro same
    subst same
    rw [stored] at otherStored
    exact Option.some.inj otherStored

theorem InStep.lookup?_eq_some_iff (inStep : arena.InStep) {node : Node} :
    arena.lookup? target = some node ↔ node ∈ arena.nodes ∧ node.target = target := by
  have stands : ∀ handle, arena.nodes[handle]? = some node → node.target = target →
      arena.handles[target]? = some handle := by
    intro handle isNode isTarget
    simp [inStep.handles, isNode, isTarget]
  unfold lookup?
  constructor
  · intro found
    cases stored : arena.handles[target]? with
    | none => simp [stored] at found
    | some handle =>
        have isNode : arena.nodes[handle]? = some node := by simpa [stored] using found
        have isTarget := (inStep.handles target handle).mp stored
        refine ⟨List.mem_of_getElem? isNode, ?_⟩
        simpa [isNode] using isTarget
  · rintro ⟨member, isTarget⟩
    obtain ⟨handle, isNode⟩ := List.mem_iff_getElem?.mp member
    simp [stands handle isNode isTarget, isNode]

theorem InStep.lookup?_eq_none_iff (inStep : arena.InStep) :
    arena.lookup? target = none ↔ arena.toGraph.produces target = false := by
  rw [← Bool.not_eq_true, Graph.produces_iff, Option.eq_none_iff_forall_ne_some]
  simp only [ne_eq, inStep.lookup?_eq_some_iff, not_exists]

/-! ## What calls come to -/

theorem InStep.perform_join (inStep : arena.InStep) (target : Nat) (sources : List Nat)
    (coefficients : List GF256) :
    arena.perform (.join target sources coefficients) =
      match arena.toGraph.join target sources coefficients with
      | .ok graph => (.ok (), ⟨graph, arena.handles.insert target arena.nodes.length, arena.bound⟩)
      | .error cause => (.error cause, arena) := by
  unfold perform Call.edit Edit.join Graph.join
  dsimp only
  split_ifs with empty arity own produced
  · rfl
  · rfl
  · rfl
  · simp [Edit.apply_bind, inStep.mem_handles_iff, produced]
  · simp [Edit.apply_bind, inStep.mem_handles_iff, produced]

theorem InStep.collect_eq (inStep : arena.InStep) {earlier handles : List Nat}
    (same : ∀ target handle, arena.handles[target]? = some handle →
      (handle ∈ handles ↔ target ∈ earlier)) (targets : List Nat) :
    (arena.collect handles targets).map (fun _ => ()) =
      arena.toGraph.checkBinding earlier targets := by
  induction targets generalizing earlier handles with
  | nil => rfl
  | cons head tail ih =>
      unfold collect Graph.checkBinding
      cases stored : arena.handles[head]? with
      | none =>
          have absent : arena.toGraph.produces head = false := by
            rw [← Bool.not_eq_true, ← inStep.mem_handles_iff]
            simp [Std.TreeMap.mem_iff_isSome_getElem?, stored]
          simp [absent, Except.map]
      | some handle =>
          have produced : arena.toGraph.produces head = true := by
            rw [← inStep.mem_handles_iff]
            simp [Std.TreeMap.mem_iff_isSome_getElem?, stored]
          have repeated := same head handle stored
          have rest : ∀ target other : Nat, arena.handles[target]? = some other →
              (other ∈ handles ++ [handle] ↔ target ∈ head :: earlier) := by
            intro target other found
            simp [same target other found, inStep.handle_eq_iff found stored, or_comm]
          by_cases taken : arena.toGraph.isBound head = true ∨ head ∈ earlier
          · simp [produced, inStep.mem_bound_iff, repeated, taken, Except.map]
          · simpa [produced, inStep.mem_bound_iff, repeated, taken] using ih rest

theorem apply_forM_markBound (targets : List Nat) (position : Nat) (arena : Arena) :
    (forM targets (Edit.markBound position)).apply arena =
      (.ok (), { arena with
        bound := targets.foldl (fun bound target => bound.insert target position)
          arena.bound }) := by
  induction targets generalizing arena with
  | nil => rfl
  | cons head tail ih =>
      rw [List.forM_cons, Edit.apply_bind, Edit.markBound, Edit.apply_modify]
      exact ih _

theorem InStep.perform_bind (inStep : arena.InStep) (targets : List Nat) :
    arena.perform (.bind targets) =
      match arena.toGraph.bind targets with
      | .ok graph => (.ok (), ⟨graph, arena.handles, if targets.length < 2 then arena.bound else
          targets.foldl (fun bound target => bound.insert target arena.bindings.length)
            arena.bound⟩)
      | .error cause => (.error cause, arena) := by
  unfold perform Call.edit Edit.bind Graph.bind
  dsimp only
  split_ifs with short
  · rfl
  · have same : ∀ target handle : Nat, arena.handles[target]? = some handle →
        (handle ∈ ([] : List Nat) ↔ target ∈ ([] : List Nat)) := by simp
    rw [← inStep.collect_eq same targets]
    cases collected : arena.collect [] targets with
    | error cause => simp [Edit.apply_bind, collected, Except.map]
    | ok handles => simp [Edit.apply_bind, collected, apply_forM_markBound, Except.map]

theorem getElem?_foldl_insert (targets : List Nat) (position : Nat)
    (bound : Std.TreeMap Nat Nat) (target : Nat) :
    (targets.foldl (fun bound target => bound.insert target position) bound)[target]? =
      if target ∈ targets then some position else bound[target]? := by
  induction targets generalizing bound with
  | nil => simp
  | cons head tail ih =>
      rw [List.foldl_cons, ih, Std.TreeMap.getElem?_insert]
      by_cases inTail : target ∈ tail
      · simp [inTail]
      · by_cases isHead : head = target
        · simp [isHead]
        · simp [inTail, isHead, Ne.symm isHead]

/-- What a call can come to, and what it leaves. -/
inductive Step (arena : Arena) : Call → Except Error Unit → Arena → Prop where
  | refused {call : Call} {cause : Error} : Step arena call (.error cause) arena
  | join {target : Nat} {sources : List Nat} {coefficients : List GF256} :
      sources ≠ [] →
      sources.length = coefficients.length →
      target ∉ sources →
      arena.toGraph.produces target = false →
      Step arena (.join target sources coefficients) (.ok ())
        ⟨⟨arena.nodes ++ [Node.ofLists target sources coefficients], arena.bindings⟩,
          arena.handles.insert target arena.nodes.length, arena.bound⟩
  | pass {targets : List Nat} :
      targets.length < 2 →
      Step arena (.bind targets) (.ok ()) arena
  | bind {targets : List Nat} :
      2 ≤ targets.length →
      targets.Nodup →
      (∀ target ∈ targets, arena.toGraph.produces target = true ∧
        arena.toGraph.isBound target = false) →
      Step arena (.bind targets) (.ok ())
        ⟨⟨arena.nodes, arena.bindings ++ [targets]⟩, arena.handles,
          targets.foldl (fun bound target => bound.insert target arena.bindings.length)
            arena.bound⟩

theorem InStep.step (inStep : arena.InStep) (call : Call) :
    arena.Step call (arena.perform call).1 (arena.perform call).2 := by
  cases call with
  | join target sources coefficients =>
      rw [inStep.perform_join]
      cases joined : arena.toGraph.join target sources coefficients with
      | error cause => exact .refused
      | ok graph =>
          obtain ⟨reads, arity, notOwn, absent, rfl⟩ := Graph.join_eq_ok_iff.mp joined
          exact .join reads arity notOwn absent
  | bind targets =>
      rw [inStep.perform_bind]
      cases isBound : arena.toGraph.bind targets with
      | error cause => exact .refused
      | ok graph =>
          rcases Graph.bind_eq_ok_iff.mp isBound with
            ⟨short, rfl⟩ | ⟨long, distinct, conditions, rfl⟩
          · simp only [if_pos short]
            exact .pass short
          · simp only [if_neg (Nat.not_lt.mpr long)]
            exact .bind long distinct conditions

theorem InStep.step_of_perform (inStep : arena.InStep) {call : Call}
    {outcome : Except Error Unit} {after : Arena}
    (performed : arena.perform call = (outcome, after)) : arena.Step call outcome after := by
  have step := inStep.step call
  rw [performed] at step
  exact step

/-! ## What calls leave -/

theorem InStep.empty : InStep Arena.empty := by
  constructor
  · simp [Arena.empty, Graph.empty]
  · simp [Arena.empty, Graph.empty]

theorem InStep.join (inStep : arena.InStep) (absent : arena.toGraph.produces target = false)
    (sources : List Nat) (coefficients : List GF256) :
    InStep ⟨⟨arena.nodes ++ [Node.ofLists target sources coefficients], arena.bindings⟩,
      arena.handles.insert target arena.nodes.length, arena.bound⟩ := by
  constructor
  · intro other handle
    have stands := inStep.handles other handle
    rw [List.map_append, List.map_singleton, getElem?_append_singleton_iff, ← stands,
      List.length_map, Node.target_ofLists, Std.TreeMap.getElem?_insert]
    by_cases isTarget : target = other
    · have fresh : arena.handles[other]? = none := by
        subst isTarget
        have outside : target ∉ arena.handles := by simp [inStep.mem_handles_iff, absent]
        exact Std.TreeMap.getElem?_eq_none outside
      simp [isTarget, fresh, eq_comm]
    · simp [isTarget]
  · exact inStep.bound

theorem InStep.bind (inStep : arena.InStep) {targets : List Nat}
    (unbound : ∀ target ∈ targets, arena.toGraph.isBound target = false) :
    InStep ⟨⟨arena.nodes, arena.bindings ++ [targets]⟩, arena.handles,
      targets.foldl (fun bound target => bound.insert target arena.bindings.length)
        arena.bound⟩ := by
  constructor
  · exact inStep.handles
  · intro other position
    have stands := inStep.bound other position
    rw [getElem?_foldl_insert]
    simp only [getElem?_append_singleton_iff]
    by_cases isNew : other ∈ targets
    · have outside := Graph.isBound_eq_false_iff.mp (unbound other isNew)
      rw [if_pos isNew, Option.some.injEq]
      constructor
      · rintro rfl
        exact ⟨targets, .inr ⟨rfl, rfl⟩, isNew⟩
      · rintro ⟨binding, earlier | ⟨last, _⟩, member⟩
        · have old := List.mem_flatten_of_mem (List.mem_of_getElem? earlier) member
          exact absurd old outside
        · exact last.symm
    · rw [if_neg isNew, stands]
      constructor
      · rintro ⟨binding, earlier, member⟩
        exact ⟨binding, .inl earlier, member⟩
      · rintro ⟨binding, earlier | ⟨_, rfl⟩, member⟩
        · exact ⟨binding, earlier, member⟩
        · exact absurd member isNew

/-- An arena that is in step and whose graph successful calls lead to. -/
structure Kept (arena : Arena) : Prop where
  inStep : arena.InStep
  built : arena.toGraph.Built

theorem Step.kept {call : Call} {outcome : Except Error Unit} {after : Arena}
    (step : arena.Step call outcome after) (kept : arena.Kept) : after.Kept := by
  cases step with
  | refused => exact kept
  | join reads arity notOwn absent =>
      have joined := Graph.join_eq_ok_iff.mpr ⟨reads, arity, notOwn, absent, rfl⟩
      exact ⟨kept.inStep.join absent _ _, kept.built.join joined⟩
  | pass => exact kept
  | bind long distinct conditions =>
      have isBound := Graph.bind_eq_ok_iff.mpr (.inr ⟨long, distinct, conditions, rfl⟩)
      exact ⟨kept.inStep.bind fun target member => (conditions target member).2,
        kept.built.bind isBound⟩

theorem ofCalls_append_singleton (calls : List Call) (last : Call) :
    ofCalls (calls ++ [last]) = ((ofCalls calls).perform last).2 := by
  simp [ofCalls]

theorem kept_ofCalls (calls : List Call) : (ofCalls calls).Kept := by
  induction calls using List.reverseRecOn with
  | nil => exact ⟨.empty, .empty⟩
  | append_singleton earlier last kept =>
      rw [ofCalls_append_singleton]
      exact (kept.inStep.step last).kept kept

/-- Calls lead to the graphs that successful calls lead to. -/
theorem built_iff_exists_calls {graph : Graph} :
    graph.Built ↔ ∃ calls, (ofCalls calls).toGraph = graph := by
  constructor
  · intro built
    induction built with
    | empty => exact ⟨[], rfl⟩
    | @join graph extended target sources coefficients _ joined ih =>
        obtain ⟨calls, rfl⟩ := ih
        refine ⟨calls ++ [.join target sources coefficients], ?_⟩
        rw [ofCalls_append_singleton, (kept_ofCalls calls).inStep.perform_join, joined]
    | @bind graph extended targets _ isBound ih =>
        obtain ⟨calls, rfl⟩ := ih
        refine ⟨calls ++ [.bind targets], ?_⟩
        rw [ofCalls_append_singleton, (kept_ofCalls calls).inStep.perform_bind, isBound]
  · rintro ⟨calls, rfl⟩
    exact (kept_ofCalls calls).built

/-- One of the calls joined an index, and succeeded. -/
def Joined (calls : List Call) (target : Nat) : Prop :=
  ∃ position sources coefficients, calls[position]? = some (.join target sources coefficients) ∧
    ((ofCalls (calls.take position)).perform
      (.join target sources coefficients)).1 = .ok ()

theorem joined_append_singleton_iff {calls : List Call} {last : Call} :
    Joined (calls ++ [last]) target ↔ Joined calls target ∨
      ∃ sources coefficients, last = .join target sources coefficients ∧
        ((ofCalls calls).perform last).1 = .ok () := by
  constructor
  · rintro ⟨position, sources, coefficients, isCall, success⟩
    rcases getElem?_append_singleton_iff.mp isCall with earlier | ⟨rfl, rfl⟩
    · have inside := (List.getElem?_eq_some_iff.mp earlier).1
      rw [List.take_append_of_le_length (Nat.le_of_lt inside)] at success
      exact .inl ⟨position, sources, coefficients, earlier, success⟩
    · rw [List.take_left] at success
      exact .inr ⟨sources, coefficients, rfl, success⟩
  · rintro (⟨position, sources, coefficients, earlier, success⟩ |
      ⟨sources, coefficients, rfl, success⟩)
    · have inside := (List.getElem?_eq_some_iff.mp earlier).1
      refine ⟨position, sources, coefficients, getElem?_append_singleton_iff.mpr (.inl earlier), ?_⟩
      rw [List.take_append_of_le_length (Nat.le_of_lt inside)]
      exact success
    · refine ⟨calls.length, sources, coefficients,
        getElem?_append_singleton_iff.mpr (.inr ⟨rfl, rfl⟩), ?_⟩
      rw [List.take_left]
      exact success

theorem Step.produces_iff {call : Call} {outcome : Except Error Unit} {after : Arena}
    (step : arena.Step call outcome after) :
    after.toGraph.produces target = true ↔ arena.toGraph.produces target = true ∨
      ∃ sources coefficients, call = .join target sources coefficients ∧ outcome = .ok () := by
  cases step with
  | refused => simp
  | join => simp [Graph.produces_iff, or_and_right, exists_or]
  | pass => simp
  | bind => simp [Graph.produces]

theorem produces_ofCalls_iff {calls : List Call} :
    (ofCalls calls).toGraph.produces target = true ↔ Joined calls target := by
  induction calls using List.reverseRecOn with
  | nil => simp [ofCalls, Arena.empty, Graph.empty, Graph.produces, Joined]
  | append_singleton earlier last ih =>
      have step := (kept_ofCalls earlier).inStep.step last
      rw [ofCalls_append_singleton, step.produces_iff, ih, joined_append_singleton_iff]

/-! ## Refused and accepted calls -/

theorem Step.eq_of_refused {call : Call} {cause : Error} {after : Arena}
    (step : arena.Step call (.error cause) after) : after = arena := by
  cases step
  rfl

theorem Step.eq_of_joined {sources : List Nat} {coefficients : List GF256} {after : Arena}
    (step : arena.Step (.join target sources coefficients) (.ok ()) after) :
    ∃ node : Node, node.target = target ∧ node.sources = sources ∧
      node.coefficients = coefficients ∧
      after = ⟨⟨arena.nodes ++ [node], arena.bindings⟩,
        arena.handles.insert target arena.nodes.length, arena.bound⟩ := by
  cases step with
  | join reads arity notOwn absent =>
      exact ⟨_, rfl, Node.sources_ofLists target arity, Node.coefficients_ofLists target arity,
        rfl⟩

theorem Step.eq_of_bound {targets : List Nat} {after : Arena}
    (step : arena.Step (.bind targets) (.ok ()) after) (long : 2 ≤ targets.length) :
    after.nodes = arena.nodes ∧ after.bindings = arena.bindings ++ [targets] ∧
      after.handles = arena.handles ∧
      ∀ target, after.bound[target]? =
        if target ∈ targets then some arena.bindings.length else arena.bound[target]? := by
  cases step with
  | pass short => omega
  | bind => exact ⟨rfl, rfl, rfl, getElem?_foldl_insert _ _ _⟩

theorem perform_bind_of_short (arena : Arena) {targets : List Nat} (short : targets.length < 2) :
    arena.perform (.bind targets) = (.ok (), arena) := by
  unfold perform Call.edit Edit.bind
  simp [short]

/-! ## Every run of calls -/

/-- What holds of an arena in which some indexes were joined. -/
structure Consistent (arena : Arena) (joined : Nat → Prop) : Prop where
  targets : (arena.nodes.map Node.target).Nodup
  found : ∀ target node, arena.lookup? target = some node ↔
    node ∈ arena.nodes ∧ node.target = target
  missing : ∀ target, arena.lookup? target = none ↔ ¬joined target
  reads : ∀ node ∈ arena.nodes, node.sources ≠ [] ∧
    node.coefficients.length = node.sources.length ∧ node.target ∉ node.sources
  bindings : ∀ binding ∈ arena.bindings, 2 ≤ binding.length ∧ ∀ target ∈ binding, joined target
  boundOnce : arena.bindings.flatten.Nodup
  inStep : arena.InStep

theorem Kept.consistent (kept : arena.Kept) {joined : Nat → Prop}
    (history : ∀ target, arena.toGraph.produces target = true ↔ joined target) :
    arena.Consistent joined := by
  have valid := kept.built.valid
  constructor
  · exact valid.targets
  · exact fun _ _ => kept.inStep.lookup?_eq_some_iff
  · intro target
    rw [kept.inStep.lookup?_eq_none_iff, ← Bool.not_eq_true, history]
  · intro node member
    exact ⟨valid.reads node member, by simp, valid.notItself node member⟩
  · intro binding member
    obtain ⟨size, produced⟩ := valid.bound binding member
    exact ⟨size, fun target inBinding => (history target).mp (produced target inBinding)⟩
  · exact valid.bindings
  · exact kept.inStep

/-- Whatever calls are made, and whether they succeed or not, the arena is consistent.  A
further call that is refused leaves it as it is, one that joins appends one node, and one
that binds several targets appends one binding. -/
theorem ofCalls_consistent (calls : List Call) :
    (ofCalls calls).Consistent (Joined calls) ∧
    (∀ call cause after, (ofCalls calls).perform call = (.error cause, after) →
      after = ofCalls calls) ∧
    (∀ target sources coefficients after,
      (ofCalls calls).perform (.join target sources coefficients) = (.ok (), after) →
        ∃ node : Node, node.target = target ∧ node.sources = sources ∧
          node.coefficients = coefficients ∧
          after = ⟨⟨(ofCalls calls).nodes ++ [node], (ofCalls calls).bindings⟩,
            (ofCalls calls).handles.insert target (ofCalls calls).nodes.length,
            (ofCalls calls).bound⟩) ∧
    (∀ targets : List Nat, targets.length < 2 →
      (ofCalls calls).perform (.bind targets) = (.ok (), ofCalls calls)) ∧
    ∀ targets after, 2 ≤ targets.length →
      (ofCalls calls).perform (.bind targets) = (.ok (), after) →
        after.nodes = (ofCalls calls).nodes ∧
        after.bindings = (ofCalls calls).bindings ++ [targets] ∧
        after.handles = (ofCalls calls).handles ∧
        ∀ target, after.bound[target]? =
          if target ∈ targets then some (ofCalls calls).bindings.length
          else (ofCalls calls).bound[target]? := by
  have kept := kept_ofCalls calls
  refine ⟨kept.consistent fun _ => produces_ofCalls_iff, ?_, ?_, ?_, ?_⟩
  · intro call cause after refused
    exact (kept.inStep.step_of_perform refused).eq_of_refused
  · intro target sources coefficients after success
    exact (kept.inStep.step_of_perform success).eq_of_joined
  · intro targets short
    exact perform_bind_of_short _ short
  · intro targets after long success
    exact (kept.inStep.step_of_perform success).eq_of_bound long

/-- Two bindings are refused, one of them for an index that no node produces. -/
example :
    (ofCalls [.join 4 [0] [1], .join 5 [0] [1], .bind [4, 6], .bind [4, 4],
      .bind [4, 5], .join 4 [1] [1], .bind [5, 4]]).toGraph =
        ⟨[⟨4, [⟨0, 1⟩]⟩, ⟨5, [⟨0, 1⟩]⟩], [[4, 5]]⟩ := by
  decide

end Arena

end LocalRepair

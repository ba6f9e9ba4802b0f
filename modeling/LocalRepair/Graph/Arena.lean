import LocalRepair.Graph.Basic
import Std.Data.TreeMap

/-!
# Arenas

A caller builds a graph in an arena, one call after the other.  Beside the graph the arena keeps
two indexes, so that no call searches the nodes or the bindings as it does in a graph alone: where
the node of each produced index stands, and where the binding of each bound one does.  A call may
end in an error, and whatever it has changed by then stays changed.
-/

namespace LocalRepair

structure Arena extends Graph where
  /-- The position of the node that produces an index. -/
  handles : Std.TreeMap Nat Nat
  /-- The position of the binding that names an index. -/
  bound : Std.TreeMap Nat Nat

/-- A step that may change an arena and may fail. -/
abbrev Edit := ExceptT Error (StateM Arena)

/-- The arguments of a call. -/
inductive Call where
  | join (target : Nat) (sources : List Nat) (coefficients : List GF256)
  | bind (targets : List Nat)
deriving DecidableEq, Repr

namespace Arena

def empty : Arena := ⟨.empty, ∅, ∅⟩

instance : Inhabited Arena := ⟨empty⟩

/-- The node that produces an index, found by its handle. -/
def lookup? (arena : Arena) (target : Nat) : Option Node :=
  match arena.handles[target]? with
  | none => none
  | some handle => arena.nodes[handle]?

/-- The handles of targets that can be bound after those with the handles in `earlier`: each has a
node, and none is bound or repeated. -/
def collect (arena : Arena) : List Nat → List Nat → Except Error (List Nat)
  | earlier, [] => .ok earlier
  | earlier, target :: rest =>
    match arena.handles[target]? with
    | none => .error (.graph (.unknownNode target))
    | some handle =>
      if arena.bound.contains target || handle ∈ earlier then
        .error (.graph (.alreadyBound target))
      else arena.collect (earlier ++ [handle]) rest

end Arena

namespace Edit

def attempt {α : Type} : Except Error α → Edit α
  | .ok value => pure value
  | .error error => throw error

/-- What a step comes to in an arena, and the arena that it leaves. -/
def apply {α : Type} (edit : Edit α) (arena : Arena) : Except Error α × Arena :=
  (edit.run.run arena).run

/-- Adds the node that produces `target` from sources and as many coefficients. -/
def join (target : Nat) (sources : List Nat) (coefficients : List GF256) : Edit Unit := do
  if sources = [] then
    throw (.graph (.noSources target))
  else if sources.length ≠ coefficients.length then
    throw (.graph (.arity target sources.length coefficients.length))
  else if target ∈ sources then
    throw (.graph (.readsItself target))
  else if (← get).handles.contains target then
    throw (.graph (.alreadyDefined target))
  else
    modify fun arena =>
      { arena with handles := arena.handles.insert target arena.nodes.length }
    modify fun arena => { arena with
      nodes := arena.nodes ++ [⟨target, List.zipWith Term.mk sources coefficients⟩] }

/-- Notes that a target is in the binding at a position. -/
def markBound (position target : Nat) : Edit Unit :=
  modify fun arena => { arena with bound := arena.bound.insert target position }

/-- Declares that targets are computed together.  Fewer than two targets need no declaration. -/
def bind (targets : List Nat) : Edit Unit := do
  if targets.length < 2 then
    pure ()
  else
    let arena ← get
    let _ ← attempt (arena.collect [] targets)
    targets.forM (markBound arena.bindings.length)
    modify fun arena => { arena with bindings := arena.bindings ++ [targets] }

end Edit

def Call.edit : Call → Edit Unit
  | .join target sources coefficients => .join target sources coefficients
  | .bind targets => .bind targets

namespace Arena

/-- The outcome of a call, and the arena that it leaves. -/
def perform (arena : Arena) (call : Call) : Except Error Unit × Arena :=
  call.edit.apply arena

/-- The arena that calls lead to, one after the other and whatever they come to. -/
def ofCalls (calls : List Call) : Arena :=
  calls.foldl (fun arena call => (arena.perform call).2) empty

end Arena

end LocalRepair

import LocalRepair.Graph.Basic

/-!
# Scheduling a graph

The nodes of one binding form a unit, and so does every node that is not bound.  A unit depends on
the units that produce its sources.  Units are scheduled from a queue, with a counter for each that
says for how many others it waits: the ones that depend on nothing enter first, and each unit that
leaves the queue lets those enter that waited for nothing else.  Units that wait for one another
never enter; such a graph has no schedule.
-/

namespace LocalRepair

/-- The positions that depend on one, ascending, where `dependencies` lists for each position what
it depends on. -/
def dependentsOf (dependencies : List (List Nat)) (position : Nat) : List Nat :=
  (List.range dependencies.length).filter fun other => position ∈ dependencies.getD other []

/-- Counts down for every one of the dependents.  Those whose counter reaches zero are released,
in their order. -/
def release : List Nat → List Nat → List Nat × List Nat
  | counters, [] => ([], counters)
  | counters, dependent :: rest =>
    let count := counters.getD dependent 0 - 1
    let (released, counters) := release (counters.set dependent count) rest
    (if count = 0 then dependent :: released else released, counters)

/-- Empties the queue into `finished`, at most `fuel` positions of it.  A position that leaves
counts down for its dependents, and those that it releases enter. -/
def drainQueue (dependents : List (List Nat)) :
    Nat → List Nat → List Nat → List Nat → List Nat
  | 0, _, _, finished => finished
  | _ + 1, _, [], finished => finished
  | fuel + 1, counters, position :: queue, finished =>
    let (released, counters) := release counters (dependents.getD position [])
    drainQueue dependents fuel counters (queue ++ released) (finished ++ [position])

/-- The positions in the order in which they leave the queue.  One that waits for itself, directly
or through others, is not among them. -/
def queueOrder (dependencies : List (List Nat)) : List Nat :=
  let positions := List.range dependencies.length
  let counters := dependencies.map List.length
  let ready := positions.filter fun position => counters.getD position 0 = 0
  drainQueue (positions.map (dependentsOf dependencies)) dependencies.length counters ready []

namespace Graph

/-- The unit of a node: the nodes bound together with it, in the order in which they were joined,
or the node alone. -/
def unitOf (graph : Graph) (node : Node) : List Node :=
  match graph.bindings.find? (node.target ∈ ·) with
  | none => [node]
  | some binding => graph.nodes.filter (·.target ∈ binding)

def units (graph : Graph) : List (List Node) :=
  (graph.nodes.map graph.unitOf).eraseDups

/-- A node of a unit and a source of it that the same unit produces. -/
def ownSource? (unit : List Node) : Option (Nat × Nat) :=
  unit.findSome? fun node =>
    (node.sources.find? fun source => unit.any (·.target = source)).map (node.target, ·)

def unitProducing? (units : List (List Node)) (index : Nat) : Option Nat :=
  units.findIdx? (·.any (·.target = index))

/-- The positions of the units that a unit depends on, ascending. -/
def unitDependencies (units : List (List Node)) (unit : List Node) : List Nat :=
  Ascending.ofList ((unit.flatMap Node.sources).filterMap (unitProducing? units))

/-- The units in an order in which every one follows those that it depends on. -/
def scheduledUnits (graph : Graph) : Except Error (List (List Node)) :=
  let units := graph.units
  match units.findSome? ownSource? with
  | some (target, source) => .error (.graph (.readsOwnUnit target source))
  | none =>
    let order := queueOrder (units.map (unitDependencies units))
    if order.length = units.length then
      .ok (order.map fun position => units.getD position [])
    else
      .error (.graph .cycle)

/-- The targets in an order in which every node follows those that produce its sources. -/
def topologicalOrder (graph : Graph) : Except Error (List Nat) := do
  pure ((← graph.scheduledUnits).flatten.map Node.target)

end Graph

end LocalRepair

import LocalRepair.Ascending
import LocalRepair.GF256

/-!
# Repair graphs

A repair graph says how blocks are computed from blocks.  A node produces one index as a sum of
terms, each a coefficient times the block at a source index.  `join` adds a node and `bind`
declares that nodes are to be computed together; both refuse whatever would make the graph
ambiguous, so every index is produced by at most one node and bound at most once.  Sources that no
node produces are the `inputs` of the graph.
-/

namespace LocalRepair

/-- A source index and the coefficient that its block is multiplied by. -/
structure Term where
  source : Nat
  coefficient : GF256
deriving DecidableEq, Repr

/-- An index and the terms whose sum it is. -/
structure Node where
  target : Nat
  terms : List Term
deriving DecidableEq, Repr

namespace Node

def sources (node : Node) : List Nat :=
  node.terms.map Term.source

def coefficients (node : Node) : List GF256 :=
  node.terms.map Term.coefficient

@[simp]
theorem length_sources (node : Node) : node.sources.length = node.terms.length := by
  simp [sources]

@[simp]
theorem length_coefficients (node : Node) : node.coefficients.length = node.terms.length := by
  simp [coefficients]

/-- The sum of the coefficients with which a node reads a source; it is zero for an index that the
node does not read. -/
def coefficientOf (node : Node) (source : Nat) : GF256 :=
  node.terms.foldl
    (fun sum term => if term.source = source then sum + term.coefficient else sum) 0

end Node

/-- Nodes in the order in which they were joined, and the lists of targets that were bound. -/
structure Graph where
  nodes : List Node
  bindings : List (List Nat)
deriving DecidableEq, Repr

namespace Graph

def empty : Graph := ⟨[], []⟩

instance : Inhabited Graph := ⟨empty⟩

def node? (graph : Graph) (target : Nat) : Option Node :=
  graph.nodes.find? (·.target = target)

def produces (graph : Graph) (index : Nat) : Bool :=
  graph.nodes.any (·.target = index)

/-- Adds the node that produces `target` from sources and as many coefficients. -/
def join (graph : Graph) (target : Nat) (sources : List Nat) (coefficients : List GF256) :
    Except Error Graph :=
  if sources = [] then
    .error (.graph (.noSources target))
  else if sources.length ≠ coefficients.length then
    .error (.graph (.arity target sources.length coefficients.length))
  else if target ∈ sources then
    .error (.graph (.readsItself target))
  else if graph.produces target then
    .error (.graph (.alreadyDefined target))
  else
    .ok { graph with
      nodes := graph.nodes ++ [⟨target, List.zipWith Term.mk sources coefficients⟩] }

def isBound (graph : Graph) (target : Nat) : Bool :=
  graph.bindings.any (target ∈ ·)

/-- Checks that targets can be bound after those in `earlier`: each is produced, and none is bound
or repeated. -/
def checkBinding (graph : Graph) : List Nat → List Nat → Except Error Unit
  | _, [] => .ok ()
  | earlier, target :: rest =>
    if !graph.produces target then .error (.graph (.unknownNode target))
    else if graph.isBound target || target ∈ earlier then .error (.graph (.alreadyBound target))
    else checkBinding graph (target :: earlier) rest

/-- Declares that targets are computed together.  Fewer than two targets need no declaration. -/
def bind (graph : Graph) (targets : List Nat) : Except Error Graph := do
  if targets.length < 2 then
    pure graph
  else
    graph.checkBinding [] targets
    pure { graph with bindings := graph.bindings ++ [targets] }

/-- The sources that no node produces, ascending. -/
def inputs (graph : Graph) : List Nat :=
  Ascending.ofList ((graph.nodes.flatMap Node.sources).filter (!graph.produces ·))

theorem produces_iff {graph : Graph} {index : Nat} :
    graph.produces index = true ↔ ∃ node ∈ graph.nodes, node.target = index := by
  simp [produces]

/-- The inputs are the sources that some node reads and no node produces. -/
theorem mem_inputs {graph : Graph} {index : Nat} :
    index ∈ graph.inputs ↔
      (∃ node ∈ graph.nodes, index ∈ node.sources) ∧ graph.produces index = false := by
  simp [inputs, Ascending.mem_ofList]

theorem pairwise_inputs (graph : Graph) : graph.inputs.Pairwise (· < ·) :=
  Ascending.pairwise_ofList _

end Graph

end LocalRepair

import LocalRepair.Graph.Execution
import LocalRepair.Scheme.Basic

/-!
# Encoding

The parities of a stripe are computed from its data blocks by one graph: a node for each parity
with its row of the generator, all bound together.
-/

namespace LocalRepair.Scheme

def parities (scheme : Scheme) : List Nat :=
  List.range' scheme.k (scheme.shape.l + scheme.shape.g)

/-- The graph that computes every parity. -/
def encode (scheme : Scheme) : Except Error Graph := do
  let data := List.range scheme.k
  let graph ← scheme.parities.foldlM
    (fun graph parity => do graph.join parity data (← scheme.generator.row parity)) Graph.empty
  graph.bind scheme.parities

def apply (scheme : Scheme) (graph : Graph) (stripe : Stripe) : Run :=
  stripe.runGraph scheme.n graph

/-- Computes the parities of a stripe from its data blocks. -/
def encodeStripe (scheme : Scheme) (stripe : Stripe) : Run :=
  match scheme.encode with
  | .ok graph => scheme.apply graph stripe
  | .error error => ⟨stripe, .error error⟩

end LocalRepair.Scheme

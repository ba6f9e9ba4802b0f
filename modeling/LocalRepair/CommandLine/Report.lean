import LocalRepair.Analysis.Average
import LocalRepair.Analysis.Curve
import LocalRepair.Analysis.Tolerance
import LocalRepair.Json
import LocalRepair.Scheme.Encoding

/-!
# Reports

What the commands show, as lines for a reader and as structured output.
-/

namespace LocalRepair.CommandLine

open Text (bracketed)
open Decimal (fixedText shortText)

/-- Lines without a break behind the last one. -/
def lines (entries : List String) : String :=
  "\n".intercalate entries

/-- A node as its target, its sources and its coefficients. -/
def nodeLine (node : Node) : String :=
  let coefficients := bracketed (node.coefficients.map GF256.toNat)
  s!"{node.target} <- {bracketed node.sources} * {coefficients}"

/-- A graph by its nodes in the order in which they were joined. -/
def graphText (graph : Graph) : String :=
  lines (graph.nodes.map nodeLine)

def graphJson (graph : Graph) : Json :=
  .object [
    ("nodes", .list (graph.nodes.map fun node => .object [
      ("target", .natural node.target),
      ("sources", .naturals node.sources),
      ("coefficients", .naturals (node.coefficients.map GF256.toNat))])),
    ("bindings", .list (graph.bindings.map .naturals))]

/-- The fault domains of a scheme, with a warning if the loss of one is not tolerated. -/
def placementText (scheme : Scheme) : String :=
  let domains := scheme.domains
  let heading := s!"{scheme.name} ({domains.length} fault domains)"
  let body := domains.zipIdx.map fun (domain, position) =>
    s!"  domain {position}: {bracketed domain}"
  let warning := match scheme.shape.checkTolerance domains with
    | .ok () => []
    | .error error => [s!"  warning: {error.message}"]
  lines (heading :: body ++ warning)

/-- The fault domains of a scheme, and whether the loss of each is tolerated. -/
def placementJson (scheme : Scheme) : Json :=
  let domains := scheme.domains
  .object [
    ("scheme", .text scheme.name),
    ("groups", .list (domains.map .naturals)),
    ("single_domain_tolerant", .truth (scheme.shape.checkTolerance domains).isOk)]

/-- A plan in the order in which its blocks are computed, and what it reads. -/
def planText (plan : DecodePlan) (cost : ReadCost) : String :=
  let order := plan.graph.topologicalOrder.toOption.getD []
  let body := (order.filterMap plan.graph.node?).map fun node => "  " ++ nodeLine node
  let bandwidth := fixedText cost.normalizedBandwidth
  let reads :=
    s!"reads: {cost.blocksRead} blocks, {cost.packetsRead} sub-packets, " ++
      s!"{cost.seeks} disk seeks, {cost.domainsTouched} fault domains, bandwidth {bandwidth}"
  lines (s!"strategy: {plan.strategy.label}" :: body ++ [reads])

def planJson (plan : DecodePlan) (cost : ReadCost) : Json :=
  .object [
    ("plan", .object [
      ("strategy", .text plan.strategy.label),
      ("graph", graphJson plan.graph)]),
    ("cost", .object [
      ("reads", .list (cost.reads.map fun read => .object [
        ("node", .natural read.block),
        ("packets", .naturals read.packets),
        ("disk_seeks", .natural read.seeks)])),
      ("packets_read", .natural cost.packetsRead),
      ("blocks_read", .natural cost.blocksRead),
      ("racks_touched", .natural cost.domainsTouched),
      ("normalized_bandwidth", .real cost.normalizedBandwidth)])]

/-- The trade-off curve, a line for each granularity. -/
def curveText (points : List (CurvePoint Float)) : String :=
  lines (points.map fun point =>
    s!"eta = {point.eta}, ADC = {shortText point.repairDomains}, " ++
      s!"AMC = {fixedText point.maintenanceTransfers}")

def curveJson (points : List (CurvePoint Float)) : Json :=
  .list (points.map fun point => .object [
    ("eta", .natural point.eta),
    ("adc", .real point.repairDomains),
    ("amc", .real point.maintenanceTransfers)])

def averageText (average : AverageCost) : String :=
  let blocks := fixedText average.blocksRead
  let domains := fixedText average.domainsTouched
  let bandwidth := fixedText average.normalizedBandwidth
  s!"{average.approach.text}: blocks read {blocks}, fault domains touched {domains}, " ++
    s!"bandwidth {bandwidth}"

def averageJson (average : AverageCost) : Json :=
  .object [
    ("approach", .text average.approach.text),
    ("blocks_read", .real average.blocksRead),
    ("domains_touched", .real average.domainsTouched),
    ("normalized_bandwidth", .real average.normalizedBandwidth)]

end LocalRepair.CommandLine

import LocalRepair.Decimal.Text
import LocalRepair.Recovery.Plan
import LocalRepair.Text.Fingerprint

/-!
# Counters of planned decodes

Three families of counters say how decoding went: plans by strategy, refusals by reason, and the
virtual symbols that global maintenance takes.  A series of a family is found by the fingerprint of
its label values one after another: label values with the fingerprint of an earlier series count
for that series, which keeps the labels it began with.  `render` writes the series, in the order of
their label values, in the text format of metrics collectors, where a value is a double.
-/

namespace LocalRepair

/-- A series: the fingerprint that finds it, the values of its labels in the order in which they
are written, and what was counted, in 64 bits. -/
structure CounterSeries where
  fingerprint : UInt64
  labels : List String
  total : UInt64
deriving DecidableEq, Repr

/-- The series of a family, ascending by their label values. -/
abbrev CounterFamily := List CounterSeries

namespace CounterFamily

def insert (series : CounterSeries) : CounterFamily → CounterFamily
  | [] => [series]
  | first :: rest =>
    if series.labels < first.labels then series :: first :: rest else first :: insert series rest

/-- Adds to the series that the fingerprint finds, or begins one with the given labels. -/
def add (fingerprint : UInt64) (labels : List String) (amount : Nat) (family : CounterFamily) :
    CounterFamily :=
  if family.any (·.fingerprint = fingerprint) then
    family.map fun series =>
      if series.fingerprint = fingerprint then
        { series with total := series.total + UInt64.ofNat amount }
      else series
  else family.insert ⟨fingerprint, labels, UInt64.ofNat amount⟩

end CounterFamily

structure Counters where
  plans : CounterFamily
  failures : CounterFamily
  virtualSymbols : CounterFamily
deriving DecidableEq, Repr

namespace Counters

def empty : Counters := ⟨[], [], []⟩

instance : Inhabited Counters := ⟨empty⟩

def recordPlan (counters : Counters) (scheme strategy : String) : Counters :=
  let fingerprint := Text.fingerprint [scheme, strategy]
  { counters with plans := counters.plans.add fingerprint [scheme, strategy] 1 }

def recordFailure (counters : Counters) (scheme : String) (reason : Reason) : Counters :=
  let fingerprint := Text.fingerprint [scheme, reason.label]
  { counters with failures := counters.failures.add fingerprint [reason.label, scheme] 1 }

def recordVirtualSymbols (counters : Counters) (scheme : String) (amount : Nat) : Counters :=
  let fingerprint := Text.fingerprint [scheme]
  { counters with virtualSymbols := counters.virtualSymbols.add fingerprint [scheme] amount }

/-- Counts the virtual nodes of a recovery graph, those at or above the width of the stripe. -/
def recordGraph (counters : Counters) (scheme : Scheme) (graph : Graph) : Counters :=
  counters.recordVirtualSymbols scheme.name
    (graph.nodes.countP fun node => scheme.n ≤ node.target)

/-- Counts the outcome of a decode request. -/
def recordDecode (counters : Counters) (scheme : Scheme) :
    Except Error DecodePlan → Counters
  | .error error => counters.recordFailure scheme.name error.reason
  | .ok plan =>
    let counters :=
      if plan.strategy = .globalMaintenance then counters.recordGraph scheme plan.graph
      else counters
    counters.recordPlan scheme.name plan.strategy.label

/-- Counts the outcome of the recovery of a domain; a refusal is not counted. -/
def recordRecovery (counters : Counters) (scheme : Scheme) : Except Error Graph → Counters
  | .error _ => counters
  | .ok graph => counters.recordGraph scheme graph

def labelCharacter (character : Char) : List Char :=
  match character with
  | '\\' => ['\\', '\\']
  | '"' => ['\\', '"']
  | '\n' => ['\\', 'n']
  | other => [other]

def label (name value : String) : String :=
  name ++ "=\"" ++ String.ofList (value.toList.flatMap labelCharacter) ++ "\""

def seriesLine (family : String) (names : List String) (series : CounterSeries) : String :=
  let labels := ",".intercalate (List.zipWith label names series.labels)
  let value := Decimal.shortText (Float.ofNat series.total.toNat)
  family ++ "\x7b" ++ labels ++ "\x7d " ++ value ++ "\n"

/-- The lines of a family, none if it has no series. -/
def renderFamily (family help : String) (names : List String) (series : CounterFamily) :
    String :=
  if series = [] then ""
  else
    s!"# HELP {family} {help}\n# TYPE {family} counter\n" ++
      String.join (series.map (seriesLine family names))

/-- All families with series, in the order of their names. -/
def render (counters : Counters) : String :=
  renderFamily "lrc_decode_failures_total" "Decode requests rejected, by reason"
    ["reason", "scheme"] counters.failures ++
  renderFamily "lrc_decode_plans_total" "Decode plans built, by strategy"
    ["scheme", "strategy"] counters.plans ++
  renderFamily "lrc_virtual_symbols_total" "Virtual symbols synthesized by global maintenance"
    ["scheme"] counters.virtualSymbols

end Counters

end LocalRepair

import LocalRepair.CommandLine.Arguments
import LocalRepair.CommandLine.Report
import LocalRepair.Counters
import LocalRepair.Policy.Document

/-!
# The program

A run of the program takes the words of its command line and what files hold, and yields what it
prints and its exit code: 0 after success, 1 after a failure, which is reported with its causes,
and 2 for a malformed command line.  What was printed before a failure stays printed.
-/

namespace LocalRepair.CommandLine

/-- Why a command fails: what was attempted, outermost first, down to the innermost cause. -/
structure Failure where
  message : String
  causes : List String
deriving DecidableEq, Repr

namespace Failure

/-- The causes that an error names besides its own wording. -/
def causesOf : Error → List String
  | .file cause => [cause.message]
  | .document => ["unexpected document"]
  | _ => []

def ofError (error : Error) : Failure :=
  ⟨error.message, causesOf error⟩

def within (message : String) (error : Error) : Failure :=
  ⟨message, error.message :: causesOf error⟩

/-- A cause behind its number, if there are several.  Further lines of it are indented alike. -/
def causeLine (number? : Option Nat) (cause : String) : String :=
  let heading := match number? with
    | some number =>
      let digits := toString number
      "".pushn ' ' (5 - digits.length) ++ digits ++ ": "
    | none => "    "
  let indent := match number? with
    | some _ => "       "
    | none => "    "
  heading ++ ("\n" ++ indent).intercalate (cause.splitOn "\n") ++ "\n"

def report (failure : Failure) : String :=
  let causes := match failure.causes with
    | [] => []
    | [cause] => ["\nCaused by:\n", causeLine none cause]
    | causes =>
      "\nCaused by:\n" ::
        causes.zipIdx.map fun (cause, number) => causeLine (some number) cause
  s!"Error: {failure.message}\n" ++ String.join causes

end Failure

/-- What a command has printed and counted so far. -/
structure Console where
  output : String
  counters : Counters

/-- A command that prints, counts and may fail. -/
abbrev Session := ExceptT Failure (StateM Console)

namespace Session

def print (line : String) : Session Unit :=
  modify fun console => { console with output := console.output ++ line ++ "\n" }

def attempt {α : Type} : Except Error α → Session α
  | .ok value => pure value
  | .error error => throw (.ofError error)

def emit (json : Bool) (structured : Json) (text : String) : Session Unit :=
  print (if json then structured.render else text)

/-- The plan for a decode request, which is counted. -/
def planDecode (scheme : Scheme) (available failed : List Nat) : Session DecodePlan := do
  let outcome := scheme.planDecode available failed
  modify fun console =>
    { console with counters := console.counters.recordDecode scheme outcome }
  attempt outcome

end Session

open Session

abbrev Files := String → Except FileError String

def createScheme (files : Files) : SchemeSource → Except Failure Scheme
  | .policy none _ => .error ⟨"--policy-id needs --policy-file", []⟩
  | .policy (some path) id =>
    match Registry.load (files path) with
    | .error error => .error (.within s!"loading policy file {path}" error)
    | .ok registry =>
      match registry.createScheme id with
      | .error error => .error (.within s!"creating scheme for policy {id}" error)
      | .ok scheme => .ok scheme
  | .parameters kind shape eta approach subpackets =>
    let l := toString shape.l
    let g := toString shape.g
    let code := toString approach.code
    let parameters := match kind with
      | .flat => [l, g]
      | .tradeoff => [l, g, toString eta, code]
      | .optimizedRepair | .optimizedMaintenance => [l, g, code]
    match Scheme.construct kind shape.n shape.k subpackets (-1) parameters with
    | .error error => .error (.ofError error)
    | .ok scheme => .ok scheme

/-- The blocks that are left when a block fails: all others, or under maintenance all outside its
fault domain. -/
def survivors (scheme : Scheme) (failed : Nat) : List Nat :=
  let lost := match scheme.approach with
    | .repair => [failed]
    | .maintenance => (scheme.domains.find? (failed ∈ ·)).getD [failed]
  (List.range scheme.n).filter (· ∉ lost)

/-- Bytes that look random: the highest ones of the states of a linear congruence. -/
def madeUpBytes : Nat → UInt64 → Block
  | 0, _ => []
  | count + 1, state =>
    let next := state * 6364136223846793005 + 1442695040888963407
    ⟨(next >>> 56).toUInt8⟩ :: madeUpBytes count next

def madeUpStripe (scheme : Scheme) (blockSize seed : Nat) : Session Stripe := do
  let stripe ← attempt ((List.range scheme.k).foldlM
    (fun (stripe : Stripe) block =>
      stripe.insert block (madeUpBytes blockSize (seed * 256 + block).toUInt64))
    (Stripe.empty blockSize))
  let run := scheme.encodeStripe stripe
  attempt run.outcome
  pure run.stripe

/-- Loses a block of an encoded stripe, decodes it and compares. -/
def verifyBlock (scheme : Scheme) (encoded : Stripe) (block : Nat) : Session Unit := do
  let available := survivors scheme block
  let lost := (List.range scheme.n).filter (· ∉ available)
  let plan ← planDecode scheme available [block]
  let run := scheme.apply plan.graph (encoded.removeAll lost)
  attempt run.outcome
  if run.stripe.get? block = encoded.get? block then
    print s!"block {block}: ok ({plan.strategy.label})"
  else
    throw ⟨s!"block {block} decoded incorrectly with {plan.strategy.label}", []⟩

/-- Measures the averages, whose decodes are counted. -/
def measure (scheme : Scheme) : Session AverageCost := do
  let plans ← attempt scheme.measuredPlans
  for (_, plan) in plans do
    modify fun console =>
      { console with counters := console.counters.recordDecode scheme (.ok plan) }
  pure (scheme.averageOf plans)

def perform (scheme : Scheme) (json : Bool) : Command → Session Unit
  | .place => emit json (placementJson scheme) (placementText scheme)
  | .encode => do
    let graph ← attempt scheme.encode
    emit json (graphJson graph) (graphText graph)
  | .decode failed available => do
    let plan ← planDecode scheme (available.getD (survivors scheme failed)) [failed]
    let cost := scheme.planCost plan.graph
    emit json (planJson plan cost) (planText plan cost)
  | .verify failed blockSize seed => do
    let encoded ← madeUpStripe scheme blockSize seed
    let targets := match failed with
      | some block => [block]
      | none => List.range scheme.k
    targets.forM (verifyBlock scheme encoded)
  | .tradeoff => do
    let points ← attempt scheme.shape.tradeoffCurve
    emit json (curveJson points) (curveText points)
  | .cost => do
    let average ← measure scheme
    emit json (averageJson average) (averageText average)

/-- What a run prints, what it reports, and its exit code. -/
structure Outcome where
  code : Nat
  output : String
  report : String
deriving DecidableEq, Repr

def invoke (files : Files) (invocation : Invocation) : Session Unit := do
  match createScheme files invocation.source with
  | .error failure => throw failure
  | .ok scheme =>
    perform scheme invocation.json invocation.command
    if invocation.metrics then
      modify fun console =>
        { console with output := console.output ++ console.counters.render }

def run (files : Files) (arguments : List String) : Outcome :=
  match parse arguments with
  | .malformed => ⟨2, "", ""⟩
  | .help => ⟨0, "", ""⟩
  | .version => ⟨0, "lrc-tradeoff 0.1.0\n", ""⟩
  | .run invocation =>
    match (invoke files invocation).run.run ⟨"", .empty⟩ with
    | (.ok (), console) => ⟨0, console.output, ""⟩
    | (.error failure, console) => ⟨1, console.output, failure.report⟩

end LocalRepair.CommandLine

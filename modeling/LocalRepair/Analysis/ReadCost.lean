import LocalRepair.Ascending
import LocalRepair.Graph.Basic
import LocalRepair.Scheme.Basic

/-!
# The cost of reading

A stripe whose blocks have `w` sub-packets each has symbols numbered through all blocks: symbol `s`
is sub-packet `s % w` of block `s / w`.  The cost of reading a set of symbols counts them by block;
symbols beyond the stripe are virtual and cost nothing.  Reading sub-packets that follow each other
takes one seek.

Symbols are numbers of 64 bits, and so is the number of symbols in some blocks, which wraps around.
A stripe of so many symbols that their number does not fit loses some of them.
-/

namespace LocalRepair

/-- The sub-packets read from one block, ascending. -/
structure BlockRead where
  block : Nat
  packets : List Nat
deriving DecidableEq, Repr

/-- The number of runs of consecutive numbers in an ascending list. -/
def countRuns (numbers : List Nat) : Nat :=
  if numbers = [] then 0
  else 1 + (numbers.zip (numbers.drop 1)).countP fun (first, second) => second ≠ first + 1

def BlockRead.seeks (read : BlockRead) : Nat :=
  countRuns read.packets

def total {α : Type} (quantity : α → Nat) : List α → Nat
  | [] => 0
  | item :: items => quantity item + total quantity items

/-- The number of symbols in some blocks with `w` sub-packets each, in 64 bits. -/
def symbolCount (blocks w : Nat) : Nat :=
  blocks * w % UInt64.size

/-- The blocks read, ascending, the number of fault domains that hold them, and the number of
data sub-packets of a stripe if it has data blocks. -/
structure ReadCost where
  reads : List BlockRead
  domainsTouched : Nat
  dataPackets : Option Nat
deriving DecidableEq, Repr

namespace ReadCost

/-- Adds a symbol below all symbols read so far. -/
def addSymbol (w symbol : Nat) : List BlockRead → List BlockRead
  | [] => [⟨symbol / w, [symbol % w]⟩]
  | read :: rest =>
    if read.block = symbol / w then { read with packets := symbol % w :: read.packets } :: rest
    else ⟨symbol / w, [symbol % w]⟩ :: read :: rest

/-- The blocks to which ascending symbols belong. -/
def readsOfSymbols (w : Nat) (symbols : List Nat) : List BlockRead :=
  symbols.foldr (addSymbol w) []

/-- The positions of the domains that hold blocks read, each once. -/
def touchedDomains (domains : List FaultDomain) (reads : List BlockRead) : List Nat :=
  Ascending.ofList (reads.filterMap fun read => domainPosition? domains read.block)

/-- The cost of reading symbols of a stripe with `n` blocks, `k` of them data blocks.  Blocks have
at least one sub-packet. -/
def ofSymbols (symbols : List Nat) (n k w : Nat) (domains : List FaultDomain) : ReadCost :=
  let w := max w 1
  let reads := readsOfSymbols w (Ascending.ofList (symbols.filter (· < symbolCount n w)))
  { reads := reads
    domainsTouched := (touchedDomains domains reads).length
    dataPackets := if k = 0 then none else some (symbolCount k w) }

def packetsRead (cost : ReadCost) : Nat :=
  total (·.packets.length) cost.reads

def blocksRead (cost : ReadCost) : Nat :=
  cost.reads.length

def seeks (cost : ReadCost) : Nat :=
  total BlockRead.seeks cost.reads

/-- The sub-packets read in proportion to the data of a stripe, zero where there is no data. -/
def normalizedBandwidth (cost : ReadCost) : Float :=
  match cost.dataPackets with
  | none => 0
  | some packets => Float.ofNat cost.packetsRead / Float.ofNat packets

end ReadCost

/-- The symbols from the first of a block up to the first of the next one. -/
def symbolsOfBlock (w block : Nat) : List Nat :=
  let first := symbolCount block w
  List.range' first (symbolCount (block + 1) w - first)

/-- The cost of the inputs of a graph, which are read as whole blocks. -/
def Scheme.planCost (scheme : Scheme) (graph : Graph) : ReadCost :=
  let w := scheme.subpackets
  let symbols := (graph.inputs.filter (· < scheme.n)).flatMap (symbolsOfBlock w)
  ReadCost.ofSymbols symbols scheme.n scheme.k w scheme.domains

end LocalRepair

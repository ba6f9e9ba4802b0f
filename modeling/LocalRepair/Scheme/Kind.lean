/-!
# Kinds of schemes and approaches to decoding

A scheme belongs to one of four kinds, which differ in how blocks are placed.  Its approach says
what a request to decode one block means: the block alone is lost, or its whole fault domain is
offline.  Both have texts of their own, in any mixture of cases for ASCII letters.
-/

namespace LocalRepair

inductive SchemeKind where
  /-- Every block is a fault domain of its own. -/
  | flat
  /-- Placement clusters blocks of a local group, as a granularity says. -/
  | tradeoff
  /-- The fixed placement of the (10, 2, 2) code that favours repair. -/
  | optimizedRepair
  /-- The fixed placement of the (10, 2, 2) code that favours maintenance. -/
  | optimizedMaintenance
deriving DecidableEq, Repr

namespace SchemeKind

/-- The class name of a kind, as policies and messages write it. -/
def className : SchemeKind → String
  | .flat => "AzureLRCFlat"
  | .tradeoff => "AzureLRCTradeoff"
  | .optimizedRepair => "AzureLRCOptR1022"
  | .optimizedMaintenance => "AzureLRCOptM1022"

def parameterNames : SchemeKind → List String
  | .flat => ["l", "g"]
  | .tradeoff => ["l", "g", "eta", "approach"]
  | .optimizedRepair | .optimizedMaintenance => ["l", "g", "approach"]

/-- The kind that a class name or short name stands for, whatever the case of its letters. -/
def ofName? (name : String) : Option SchemeKind :=
  match name.toLower with
  | "azurelrcflat" | "flat" => some .flat
  | "azurelrctradeoff" | "tradeoff" => some .tradeoff
  | "azurelrcoptr1022" | "opt-repair" => some .optimizedRepair
  | "azurelrcoptm1022" | "opt-maintenance" => some .optimizedMaintenance
  | _ => none

end SchemeKind

/-- What a request to decode one block assumes. -/
inductive Approach where
  /-- The block is lost, whatever its fault domain. -/
  | repair
  /-- The block's whole fault domain is offline. -/
  | maintenance
deriving DecidableEq, Repr

namespace Approach

/-- Without a word to the contrary, a lost block is to be repaired. -/
instance : Inhabited Approach := ⟨.repair⟩

/-- The number of an approach in scheme parameters. -/
def code : Approach → Int
  | .repair => 0
  | .maintenance => 1

def ofCode? (code : Int) : Option Approach :=
  if code = 0 then some .repair else if code = 1 then some .maintenance else none

def text : Approach → String
  | .repair => "repair"
  | .maintenance => "maintenance"

/-- The approach that a word, its first letter or its number stands for. -/
def ofName? (name : String) : Option Approach :=
  match name.toLower with
  | "repair" | "r" | "0" => some .repair
  | "maintenance" | "m" | "1" => some .maintenance
  | _ => none

end Approach

end LocalRepair

import LocalRepair.Policy.Registry
import LocalRepair.Yaml.Document
import LocalRepair.Yaml.Number

/-!
# Policy files

A policy file is a mapping whose entry `policies` lists policies, each a mapping of its own.
Entries with other names are ignored, and an entry that is known may occur only once.  Texts are
taken from scalars as they are written; numbers must be plain scalars, or literal ones with the tag
of integers.  A parameter may be a text or an integer, and an integer becomes its decimal text.
Where a list or a mapping is expected, the empty plain scalar stands for the empty one.
-/

namespace LocalRepair.Policy

open Text (IntegerRange)

/-- Whether a node is the empty plain scalar, which stands for an empty collection. -/
def isEmptyNode : Yaml.Node → Bool
  | .scalar "" true | .tagged _ "" .plain => true
  | _ => false

def text? : Yaml.Node → Option String
  | .scalar text _ | .tagged _ text _ => some text
  | _ => none

/-- What a policy file holds, by name; nothing for a node that is no mapping with scalar keys. -/
def entries? : Yaml.Node → Option (List (String × Yaml.Node))
  | .mapping entries => entries.mapM fun (key, value) => do some (← text? key, value)
  | node => if isEmptyNode node then some [] else none

def items? : Yaml.Node → Option (List Yaml.Node)
  | .sequence items => some items
  | node => if isEmptyNode node then some [] else none

/-- The tag that makes an integer of a scalar. -/
def integerTag : String :=
  "tag:yaml.org,2002:int"

/-- The integer of a range that a plain scalar, or a literal one with the tag of integers,
denotes. -/
def integer? (range : IntegerRange) : Yaml.Node → Option Int
  | .scalar text true | .tagged _ text .plain => Yaml.integer? range text.toList
  | .tagged tag text .literal =>
    if tag = integerTag then Yaml.integer? range text.toList else none
  | _ => none

def natural? (node : Yaml.Node) : Option Nat :=
  (integer? .unsigned64 node).map Int.toNat

/-! ## Parameters -/

/-- The value of a parameter in a policy file. -/
inductive ParameterValue where
  | integer (value : Int)
  | text (content : String)
deriving DecidableEq, Repr

namespace ParameterValue

/-- The text that a policy keeps of a parameter. -/
def toText : ParameterValue → String
  | .integer value => toString value
  | .text content => content

/-- The integers that are numbers to a reader of parameters, whether or not they fit one. -/
def readableIntegers : IntegerRange :=
  ⟨-(1 <<< 127), (1 <<< 128) - 1⟩

/-- An integer, which must fit 64 bits. -/
def ofInteger? (value : Int) : Option ParameterValue :=
  if IntegerRange.signed64.low ≤ value ∧ value ≤ IntegerRange.signed64.high then
    some (.integer value)
  else none

/-- The value of a plain scalar.  One that denotes anything else than an integer or a text is
refused. -/
def ofPlain? (characters : List Char) : Option ParameterValue :=
  if Yaml.isNull characters || Yaml.isTruthValue characters then none
  else
    match Yaml.integer? readableIntegers characters with
    | some value => ofInteger? value
    | none =>
      if Yaml.isFraction characters then none else some (.text (String.ofList characters))

/-- Whether a tag asks for a value that is neither an integer nor a text: one of another kind, or
one of a type that the document defines. -/
def isForeignTag (tag : String) : Bool :=
  tag.toList.head? = some '!' ||
    ["tag:yaml.org,2002:null", "tag:yaml.org,2002:bool", "tag:yaml.org,2002:float"].contains tag

/-- The value of a scalar with a tag, which is a text unless the tag says otherwise. -/
def ofTagged? (tag content : String) : Option ParameterValue :=
  if tag = integerTag then Yaml.integer? readableIntegers content.toList >>= ofInteger?
  else if isForeignTag tag then none
  else some (.text content)

def ofNode? : Yaml.Node → Option ParameterValue
  | .scalar content true => ofPlain? content.toList
  | .scalar content false => some (.text content)
  | .tagged tag content _ => ofTagged? tag content
  | _ => none

end ParameterValue

/-- The texts of the parameters that a list holds, each written as a text or as an integer. -/
def parameters? (node : Yaml.Node) : Option (List String) := do
  let values ← (← items? node).mapM ParameterValue.ofNode?
  some (values.map ParameterValue.toText)

/-- The value of the entry with a name.  The entry must not be repeated; the outer result is
missing if it is, or if its value cannot be read. -/
def entry? {α : Type} (entries : List (String × Yaml.Node)) (name : String)
    (read : Yaml.Node → Option α) : Option (Option α) :=
  match entries.filter (·.1 = name) with
  | [] => some none
  | [(_, node)] => (read node).map some
  | _ => none

def ofNode? (node : Yaml.Node) : Option Policy := do
  let entries ← entries? node
  some {
    id := ← (← entry? entries "id" text?)
    className := ← (← entry? entries "classname" text?)
    n := ← (← entry? entries "n" natural?)
    k := ← (← entry? entries "k" natural?)
    subpackets := (← entry? entries "w" natural?).getD 1
    optimization := (← entry? entries "opt" (integer? .signed32)).getD (-1)
    parameters := (← entry? entries "param" parameters?).getD [] }

def listOfDocument? : Yaml.Document → Option (List Policy)
  | .void => some []
  | .root node => do
    let entries ← entries? node
    let policies ← entry? entries "policies" fun node => do (← items? node).mapM ofNode?
    some (policies.getD [])

def listOfText? (text : String) : Option (List Policy) := do
  listOfDocument? (← Yaml.Document.parse? text)

end LocalRepair.Policy

namespace LocalRepair.Registry

/-- The registry of the policies that a reader finds in a text. -/
def parseWith (read : String → Option (List Policy)) (text : String) : Except Error Registry :=
  match read text with
  | some policies => ofPolicies policies
  | none => .error .document

/-- The registry that the text of a policy file describes. -/
def parse (text : String) : Except Error Registry :=
  parseWith Policy.listOfText? text

/-- The text in a file, whose bytes must encode one. -/
def textOf (bytes : ByteArray) : Except FileError String :=
  match String.fromUTF8? bytes with
  | some text => .ok text
  | none => .error .notText

/-- The registry in a policy file, given what reading the file yields. -/
def load (content : Except FileError String) : Except Error Registry :=
  match content with
  | .ok text => parse text
  | .error cause => .error (.file cause)

end LocalRepair.Registry

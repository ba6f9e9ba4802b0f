import LocalRepair.Yaml.Token

/-!
# Nodes of a document

A node is a scalar, a sequence of nodes or a mapping of nodes to nodes, or refers to a node by the
name that an anchor gives this.  Where a token sequence leaves a node out, as after a colon without
a value, the node is the empty plain scalar.  Every reader takes a bound on the depth of the
recursion, for which the number of tokens is enough.
-/

namespace LocalRepair.Yaml

/-- A node of a document.  A scalar knows whether it is written plainly.  Tags of collections do not
matter to any reader and are left out. -/
inductive Node where
  | scalar (text : String) (isPlain : Bool)
  | tagged (tag text : String) (style : ScalarStyle)
  | sequence (items : List Node)
  | mapping (entries : List (Node × Node))
  | reference (name : String)
  | anchored (name : String) (node : Node)

namespace Node

def omitted : Node :=
  .scalar "" true

/-- What stands before the content of a node. -/
structure Properties where
  anchor? : Option String
  tag? : Option String

/-- Splits an anchor and a tag off, in either order. -/
def Properties.split : List Token → Properties × List Token
  | .anchor name :: .tag tag :: rest | .tag tag :: .anchor name :: rest =>
    (⟨some name, some tag.suffix⟩, rest)
  | .anchor name :: rest => (⟨some name, none⟩, rest)
  | .tag tag :: rest => (⟨none, some tag.suffix⟩, rest)
  | tokens => (⟨none, none⟩, tokens)

namespace Properties

def areNone (properties : Properties) : Bool :=
  properties.anchor?.isNone && properties.tag?.isNone

/-- A scalar with these properties.  An exclamation mark alone is no tag where there is text. -/
def scalar (properties : Properties) (text : String) (style : ScalarStyle) : Node :=
  match properties.tag? with
  | none | some "!" => .scalar text (style = .plain)
  | some tag => .tagged tag text style

/-- The scalar that is left out behind these properties. -/
def omitted (properties : Properties) : Node :=
  match properties.tag? with
  | none => Node.omitted
  | some tag => .tagged tag "" .plain

def name (properties : Properties) (node : Node) : Node :=
  match properties.anchor? with
  | none => node
  | some name => .anchored name node

end Properties

/-- The tokens before which a block collection or a pair leaves a node out. -/
def endsBlockNode : List Token → Bool
  | .key :: _ | .value :: _ | .blockEnd :: _ => true
  | _ => false

/-- Whether a flow collection with the given end leaves out the key that would begin with a
token. -/
def leavesKeyOut (closing token : Token) : Bool :=
  token = .value || token = .flowEntry || token = closing

/-- Takes the content of a node as left out, which only one with properties allows. -/
def readOmitted (properties : Properties) (tokens : List Token) : Option (Node × List Token) :=
  if properties.areNone then none else some (properties.omitted, tokens)

mutual

/-- Reads a node.  Block collections are allowed if `inBlock`, and a sequence whose dashes are
not indented if `unindented`. -/
def read (inBlock unindented : Bool) : Nat → List Token → Option (Node × List Token)
  | 0, _ => none
  | _ + 1, .reference name :: rest => some (.reference name, rest)
  | fuel + 1, tokens => do
    let (properties, tokens) := Properties.split tokens
    let (node, rest) ← readContent inBlock unindented properties fuel tokens
    some (properties.name node, rest)

/-- Reads the content of a node behind its properties, which may be left out if there are some. -/
def readContent (inBlock unindented : Bool) (properties : Properties) :
    Nat → List Token → Option (Node × List Token)
  | 0, _ => none
  | fuel + 1, tokens =>
    match tokens with
    | .scalar text style :: rest => some (properties.scalar text style, rest)
    | .flowSequenceStart :: rest => do
      let (items, rest) ← readFlowItems fuel true rest
      some (.sequence items, rest)
    | .flowMappingStart :: rest => do
      let (entries, rest) ← readFlowEntries fuel true rest
      some (.mapping entries, rest)
    | .blockEntry :: _ =>
      if unindented then do
        let (items, rest) ← readUnindentedItems fuel tokens
        some (.sequence items, rest)
      else readOmitted properties tokens
    | .blockSequenceStart :: rest =>
      if inBlock then do
        let (items, rest) ← readBlockItems fuel rest
        some (.sequence items, rest)
      else readOmitted properties tokens
    | .blockMappingStart :: rest =>
      if inBlock then do
        let (entries, rest) ← readBlockEntries fuel rest
        some (.mapping entries, rest)
      else readOmitted properties tokens
    | _ => readOmitted properties tokens

/-- Reads the items of a block sequence up to its end. -/
def readBlockItems : Nat → List Token → Option (List Node × List Token)
  | 0, _ => none
  | fuel + 1, tokens =>
    match tokens with
    | .blockEnd :: rest => some ([], rest)
    | .blockEntry :: rest => do
      let isOmitted := match rest with
        | .blockEntry :: _ | .blockEnd :: _ => true
        | _ => false
      let (item, rest) ← if isOmitted then some (omitted, rest) else read true false fuel rest
      let (items, rest) ← readBlockItems fuel rest
      some (item :: items, rest)
    | _ => none

/-- Reads the items of a sequence whose dashes are not indented. -/
def readUnindentedItems : Nat → List Token → Option (List Node × List Token)
  | 0, _ => none
  | fuel + 1, tokens =>
    match tokens with
    | .blockEntry :: rest => do
      let isOmitted := match rest with
        | .blockEntry :: _ => true
        | rest => endsBlockNode rest
      let (item, rest) ← if isOmitted then some (omitted, rest) else read true false fuel rest
      let (items, rest) ← readUnindentedItems fuel rest
      some (item :: items, rest)
    | rest => some ([], rest)

/-- Reads the node that a colon introduces in a block mapping, if there is a colon. -/
def readBlockValue : Nat → List Token → Option (Node × List Token)
  | 0, _ => none
  | fuel + 1, tokens =>
    match tokens with
    | .value :: rest =>
      if endsBlockNode rest then some (omitted, rest) else read true true fuel rest
    | rest => some (omitted, rest)

/-- Reads the entries of a block mapping up to its end. -/
def readBlockEntries : Nat → List Token → Option (List (Node × Node) × List Token)
  | 0, _ => none
  | fuel + 1, tokens =>
    match tokens with
    | .blockEnd :: rest => some ([], rest)
    | .key :: rest => do
      let (key, rest) ←
        if endsBlockNode rest then some (omitted, rest) else read true true fuel rest
      let (value, rest) ← readBlockValue fuel rest
      let (entries, rest) ← readBlockEntries fuel rest
      some ((key, value) :: entries, rest)
    | _ => none

/-- Reads the node that a colon introduces in a flow collection, if there is a colon. -/
def readFlowValue (closing : Token) : Nat → List Token → Option (Node × List Token)
  | 0, _ => none
  | fuel + 1, tokens =>
    match tokens with
    | .value :: .flowEntry :: rest => some (omitted, .flowEntry :: rest)
    | .value :: rest =>
      if rest.head? = some closing then some (omitted, rest) else read false false fuel rest
    | rest => some (omitted, rest)

/-- Reads the key of a pair of a flow collection behind its mark.  In a flow sequence the token
that shows that the key is left out counts as its last; a flow mapping goes on with that token. -/
def readFlowKey (closing : Token) : Nat → List Token → Option (Node × List Token)
  | 0, _ => none
  | _, [] => none
  | fuel + 1, token :: rest =>
    if leavesKeyOut closing token then
      some (omitted, if closing = .flowSequenceEnd then rest else token :: rest)
    else read false false fuel (token :: rest)

/-- Reads a pair of a flow collection behind the mark of its key. -/
def readFlowPair (closing : Token) :
    Nat → List Token → Option ((Node × Node) × List Token)
  | 0, _ => none
  | fuel + 1, tokens => do
    let (key, rest) ← readFlowKey closing fuel tokens
    let (value, rest) ← readFlowValue closing fuel rest
    some ((key, value), rest)

/-- Reads the items of a flow sequence up to its closing bracket.  An item may be a single pair,
which makes a mapping of its own. -/
def readFlowItems : Nat → Bool → List Token → Option (List Node × List Token)
  | 0, _, _ => none
  | fuel + 1, isFirst, tokens =>
    match tokens with
    | .flowSequenceEnd :: rest => some ([], rest)
    | tokens => do
      let tokens ← if isFirst then some tokens else
        match tokens with
        | .flowEntry :: rest => some rest
        | _ => none
      match tokens with
      | .flowSequenceEnd :: rest => some ([], rest)
      | .key :: rest =>
        let (pair, rest) ← readFlowPair .flowSequenceEnd fuel rest
        let (items, rest) ← readFlowItems fuel false rest
        some (.mapping [pair] :: items, rest)
      | tokens =>
        let (item, rest) ← read false false fuel tokens
        let (items, rest) ← readFlowItems fuel false rest
        some (item :: items, rest)

/-- Reads the entries of a flow mapping up to its closing bracket.  A node without a colon is a
key whose value is left out. -/
def readFlowEntries :
    Nat → Bool → List Token → Option (List (Node × Node) × List Token)
  | 0, _, _ => none
  | fuel + 1, isFirst, tokens =>
    match tokens with
    | .flowMappingEnd :: rest => some ([], rest)
    | tokens => do
      let tokens ← if isFirst then some tokens else
        match tokens with
        | .flowEntry :: rest => some rest
        | _ => none
      match tokens with
      | .flowMappingEnd :: rest => some ([], rest)
      | .key :: rest =>
        let (pair, rest) ← readFlowPair .flowMappingEnd fuel rest
        let (entries, rest) ← readFlowEntries fuel false rest
        some (pair :: entries, rest)
      | tokens =>
        let (key, rest) ← read false false fuel tokens
        let (entries, rest) ← readFlowEntries fuel false rest
        some ((key, omitted) :: entries, rest)

end

end Node

end LocalRepair.Yaml

import LocalRepair.Yaml.Node

/-!
# Documents

A text holds at most one document.  Directives before it say what the handles of its tags mean, and
a reference stands for the last node before it whose anchor has its name.  A reference from within
that node stays in the document as it is: no reader follows it, and nothing is wrong with it where
nobody reads.
-/

namespace LocalRepair.Yaml

/-! ## Handles of tags -/

/-- The directives at the beginning of a document, as the meanings of handles. -/
def takeDirectives (hasVersion : Bool) (handles : List (String × String)) :
    List Token → Option (List (String × String) × List Token)
  | .directive (.version major minor) :: rest =>
    if hasVersion || major ≠ 1 || (minor ≠ 1 && minor ≠ 2) then none
    else takeDirectives true handles rest
  | .directive (.handle handle meaning) :: rest =>
    if handles.any (·.1 = handle) then none
    else takeDirectives hasVersion (handles ++ [(handle, meaning)]) rest
  | tokens => some (handles, tokens)

/-- The handles that need no directive. -/
def knownHandles : List (String × String) :=
  [("!", "!"), ("!!", "tag:yaml.org,2002:")]

/-- Puts the meaning of its handle into a tag. -/
def Token.resolveTag (handles : List (String × String)) : Token → Option Token
  | .tag name =>
    if name.handle = "" then some (.tag name)
    else do
      let meaning ← (handles ++ knownHandles).lookup name.handle
      some (.tag ⟨"", meaning ++ name.suffix⟩)
  | token => some token

/-! ## References -/

/-- The nodes with anchors that have begun so far, the last one first, and those that have ended
themselves. -/
abbrev Anchors := List (String × Option Node)

mutual

/-- Replaces the references in a node by what they stand for. -/
def Node.resolve (anchors : Anchors) : Node → Option (Node × Anchors)
  | .reference name =>
    match anchors.lookup name with
    | some (some node) => some (node, anchors)
    | some none => some (.reference name, anchors)
    | none => none
  | .anchored name node => do
    let (node, anchors) ← node.resolve ((name, none) :: anchors)
    some (node, (name, some node) :: anchors)
  | .sequence items => do
    let (items, anchors) ← resolveItems anchors items
    some (.sequence items, anchors)
  | .mapping entries => do
    let (entries, anchors) ← resolveEntries anchors entries
    some (.mapping entries, anchors)
  | .scalar text isPlain => some (.scalar text isPlain, anchors)
  | .tagged tag text style => some (.tagged tag text style, anchors)

def resolveItems (anchors : Anchors) : List Node → Option (List Node × Anchors)
  | [] => some ([], anchors)
  | item :: items => do
    let (item, anchors) ← item.resolve anchors
    let (items, anchors) ← resolveItems anchors items
    some (item :: items, anchors)

def resolveEntries (anchors : Anchors) :
    List (Node × Node) → Option (List (Node × Node) × Anchors)
  | [] => some ([], anchors)
  | (key, value) :: entries => do
    let (key, anchors) ← key.resolve anchors
    let (value, anchors) ← value.resolve anchors
    let (entries, anchors) ← resolveEntries anchors entries
    some ((key, value) :: entries, anchors)

end

/-! ## Documents -/

/-- A text with at most one document. -/
inductive Document where
  | void
  | root (node : Node)

namespace Document

/-- The tokens of the content of a document, with the handles that it may use.  A document with
directives has its beginning marked. -/
def begin? (tokens : List Token) : Option (List (String × String) × List Token) := do
  let (handles, content) ← takeDirectives false [] tokens
  match content with
  | .documentStart :: content => some (handles, content)
  | .documentEnd :: _ => none
  | content => if content.length < tokens.length then none else some (handles, content)

/-- Reads the root of a document. -/
def readRoot (tokens : List Token) : Option (Node × List Token) :=
  match tokens with
  | [] | .documentStart :: _ | .documentEnd :: _ => some (Node.omitted, tokens)
  | tokens => Node.read true false (5 * tokens.length + 5) tokens

def ofTokens? (tokens : List Token) : Option Document :=
  match tokens with
  | [] => some .void
  | tokens => do
    let (handles, content) ← begin? tokens
    let (node, rest) ← readRoot (← content.mapM (Token.resolveTag handles))
    let (node, _) ← node.resolve []
    if rest.all (· = .documentEnd) then some (.root node) else none

def parse? (text : String) : Option Document := do
  ofTokens? (← Token.ofText? text)

end Document

end LocalRepair.Yaml

import LocalRepair.Yaml.BlockScalar
import LocalRepair.Yaml.Property

/-!
# Tokens of a document

A document is cut into scalars, the punctuation between them, and marks where block collections
begin and end, which indentation decides.  That a scalar or a flow collection is a mapping key
shows only at the colon after it, so the lexer keeps, for each level of flow collections, the
place of the last token that may turn out to be one, and puts the marks in there later.  A key and
its colon stand on one line, at most 1024 bytes apart.
-/

namespace LocalRepair.Yaml

/-- How a scalar is written, as far as it matters to what it denotes. -/
inductive ScalarStyle where
  | plain
  /-- Behind a bar. -/
  | literal
  /-- Quoted or behind an angle bracket. -/
  | other
deriving DecidableEq, Repr

inductive Token where
  | directive (directive : Directive)
  | documentStart
  | documentEnd
  | blockSequenceStart
  | blockMappingStart
  | blockEnd
  | flowSequenceStart
  | flowSequenceEnd
  | flowMappingStart
  | flowMappingEnd
  | blockEntry
  | flowEntry
  | key
  | value
  | reference (name : String)
  | anchor (name : String)
  | tag (name : TagName)
  | scalar (text : String) (style : ScalarStyle)
deriving DecidableEq, Repr

/-- A token that may turn out to be a mapping key: where it stands in the text and among the
tokens, and whether it must be one. -/
structure KeyCandidate where
  line : Nat
  column : Nat
  index : Nat
  position : Nat
  required : Bool

/-- The tokens found so far and what decides about the next one.  `indents` are the columns of the
open block collections, innermost first; `candidates` has the possible key of each flow level,
innermost first. -/
structure Lexer where
  cursor : Cursor
  tokens : Array Token
  indents : List Nat
  flowLevel : Nat
  keyAllowed : Bool
  candidates : List (Option KeyCandidate)

namespace Lexer

def start (text : List Char) : Lexer where
  cursor := .start text
  tokens := #[]
  indents := []
  flowLevel := 0
  keyAllowed := true
  candidates := [none]

/-- Skips what separates tokens.  A tab does not, where a block collection may begin; a new line
outside flow collections lets a key begin.  A byte order mark at the beginning of a line is skipped,
but takes a column like any other character. -/
def skipSeparation : Nat → Lexer → Lexer
  | 0, lexer => lexer
  | fuel + 1, lexer =>
    let cursor := lexer.cursor
    match cursor.rest with
    | [] => lexer
    | character :: _ =>
      if character = ' ' || (character = '\t' && (lexer.flowLevel != 0 || !lexer.keyAllowed)) then
        skipSeparation fuel { lexer with cursor := cursor.next }
      else if character = '\ufeff' && cursor.column = 0 then
        skipSeparation fuel { lexer with cursor := cursor.next }
      else if character = '#' then
        skipSeparation fuel
          { lexer with cursor := cursor.skipWhile fun character => !isBreak character }
      else if isBreak character then
        skipSeparation fuel
          { lexer with
            cursor := cursor.nextLine
            keyAllowed := lexer.keyAllowed || lexer.flowLevel = 0 }
      else lexer

/-- Whether the cursor is too far behind a candidate for it to be a key. -/
def isStale (cursor : Cursor) (candidate : KeyCandidate) : Bool :=
  candidate.line < cursor.line || candidate.index + 1024 < cursor.index

/-- Gives up the candidates that are too far back.  One that must be a key makes the text
malformed. -/
def dropStale (lexer : Lexer) : Option Lexer := do
  let candidates ← lexer.candidates.mapM fun candidate? =>
    match candidate? with
    | none => some none
    | some candidate =>
      if !isStale lexer.cursor candidate then some (some candidate)
      else if candidate.required then none
      else some none
  some { lexer with candidates := candidates }

/-- Closes the block collections that are indented by more than a column. -/
def closeBlocks (column : Nat) : List Nat → Array Token → List Nat × Array Token
  | [], tokens => ([], tokens)
  | indent :: indents, tokens =>
    if column < indent then closeBlocks column indents (tokens.push .blockEnd)
    else (indent :: indents, tokens)

/-- Closes the block collections that the column of the next token ends. -/
def unindent (lexer : Lexer) : Lexer :=
  if lexer.flowLevel = 0 then
    let (indents, tokens) := closeBlocks lexer.cursor.column lexer.indents lexer.tokens
    { lexer with indents := indents, tokens := tokens }
  else lexer

def unindentAll (lexer : Lexer) : Lexer :=
  { lexer with
    indents := []
    tokens := lexer.tokens ++ (lexer.indents.map fun _ => Token.blockEnd).toArray }

/-- Opens a block collection at a column, with its mark among the tokens, unless one is open
there. -/
def indentTo (lexer : Lexer) (column position : Nat) (mark : Token) : Lexer :=
  let deeper := match lexer.indents with
    | [] => true
    | indent :: _ => decide (indent < column)
  if lexer.flowLevel = 0 && deeper then
    { lexer with
      indents := column :: lexer.indents
      tokens := lexer.tokens.insertIdxIfInBounds position mark }
  else lexer

/-- Gives up the candidate of the current level. -/
def dropCandidate (lexer : Lexer) : Option Lexer :=
  match lexer.candidates with
  | some candidate :: outer =>
    if candidate.required then none else some { lexer with candidates := none :: outer }
  | _ => some lexer

/-- Notes that the next token may be a key. -/
def noteCandidate (lexer : Lexer) : Option Lexer :=
  if lexer.keyAllowed then do
    let lexer ← lexer.dropCandidate
    let cursor := lexer.cursor
    let candidate : KeyCandidate := {
      line := cursor.line
      column := cursor.column
      index := cursor.index
      position := lexer.tokens.size
      required := lexer.flowLevel = 0 && lexer.indents.head? = some cursor.column }
    some { lexer with candidates := some candidate :: lexer.candidates.drop 1 }
  else some lexer

/-- Adds a token that ends at a cursor, and says whether a key may follow. -/
def pushTo (lexer : Lexer) (token : Token) (cursor : Cursor) (keyAllowed : Bool) : Lexer :=
  { lexer with
    tokens := lexer.tokens.push token
    cursor := cursor
    keyAllowed := keyAllowed }

/-- Adds a token that takes some characters, and says whether a key may follow. -/
def push (lexer : Lexer) (token : Token) (length : Nat) (keyAllowed : Bool) : Lexer :=
  lexer.pushTo token (lexer.cursor.skip length) keyAllowed

/-- A marker between documents. -/
def documentMarker (lexer : Lexer) (token : Token) : Option Lexer := do
  let lexer ← lexer.unindentAll.dropCandidate
  some (lexer.push token 3 false)

def directive (lexer : Lexer) : Option Lexer := do
  let lexer ← lexer.unindentAll.dropCandidate
  let (directive, cursor) ← directive? lexer.cursor
  some (lexer.pushTo (.directive directive) cursor false)

def openFlow (lexer : Lexer) (token : Token) : Option Lexer := do
  let lexer ← lexer.noteCandidate
  let lexer := lexer.push token 1 true
  some { lexer with
    candidates := none :: lexer.candidates
    flowLevel := lexer.flowLevel + 1 }

def closeFlow (lexer : Lexer) (token : Token) : Option Lexer := do
  let lexer ← lexer.dropCandidate
  let lexer := lexer.push token 1 false
  if lexer.flowLevel = 0 then some lexer
  else
    some { lexer with
      candidates := lexer.candidates.drop 1
      flowLevel := lexer.flowLevel - 1 }

def flowEntry (lexer : Lexer) : Option Lexer := do
  let lexer ← lexer.dropCandidate
  some (lexer.push .flowEntry 1 true)

/-- The dash before an entry of a block sequence, or the question mark before a key. -/
def blockIndicator (lexer : Lexer) (mark token : Token) (keyAllowed : Bool) : Option Lexer := do
  if lexer.flowLevel = 0 ∧ !lexer.keyAllowed then none
  else
    let lexer := lexer.indentTo lexer.cursor.column lexer.tokens.size mark
    let lexer ← lexer.dropCandidate
    some (lexer.push token 1 keyAllowed)

/-- The colon before a value.  If there is a candidate, it is the key. -/
def valueIndicator (lexer : Lexer) : Option Lexer :=
  match lexer.candidates with
  | some candidate :: outer =>
    let lexer := { lexer with
      candidates := none :: outer
      tokens := lexer.tokens.insertIdxIfInBounds candidate.position .key }
    let lexer := lexer.indentTo candidate.column candidate.position .blockMappingStart
    some (lexer.push .value 1 false)
  | _ =>
    if lexer.flowLevel = 0 then
      if lexer.keyAllowed then
        let lexer := lexer.indentTo lexer.cursor.column lexer.tokens.size .blockMappingStart
        some (lexer.push .value 1 true)
      else none
    else some (lexer.push .value 1 false)

def quoted (lexer : Lexer) (quote : Char) : Option Lexer := do
  let lexer ← lexer.noteCandidate
  let (text, cursor) ← quotedScalar? quote lexer.cursor
  some (lexer.pushTo (.scalar text .other) cursor false)

/-- A block scalar, which is no key, and behind which a key may begin. -/
def block (lexer : Lexer) (style : ScalarStyle) : Option Lexer := do
  let lexer ← lexer.dropCandidate
  let (text, cursor) ← blockScalar? (style = .literal) lexer.indents.head? lexer.cursor
  some (lexer.pushTo (.scalar text style) cursor true)

/-- The name of a node, where it stands or where another node refers to it. -/
def named (lexer : Lexer) (token : String → Token) : Option Lexer := do
  let lexer ← lexer.noteCandidate
  let (name, cursor) ← anchorName? lexer.cursor.next
  some (lexer.pushTo (token name) cursor false)

def tag (lexer : Lexer) : Option Lexer := do
  let lexer ← lexer.noteCandidate
  let (name, cursor) ← tagName? (lexer.flowLevel != 0) lexer.cursor
  some (lexer.pushTo (.tag name) cursor false)

def plain (lexer : Lexer) : Option Lexer := do
  let lexer ← lexer.noteCandidate
  let indent := match lexer.indents with
    | [] => 0
    | indent :: _ => indent + 1
  let scalar ← plainScalar? (lexer.flowLevel != 0) indent lexer.cursor
  let token := Token.scalar (String.ofList scalar.characters) .plain
  some (lexer.pushTo token scalar.cursor scalar.endsLine)

/-- The characters with which no plain scalar begins, whatever follows them. -/
def isIndicator (character : Char) : Bool :=
  [',', '[', ']', '{', '}', '#', '&', '*', '!', '|', '>', '\'', '"', '%', '@', '\x60'].contains
    character

/-- Reads the token that begins with the given character. -/
def readToken (lexer : Lexer) (character : Char) : Option Lexer :=
  let inFlow := lexer.flowLevel != 0
  let separated := lexer.cursor.separatedAt 1
  if character = '%' && lexer.cursor.column = 0 then lexer.directive
  else if lexer.cursor.atMarker ['-', '-', '-'] then lexer.documentMarker .documentStart
  else if lexer.cursor.atMarker ['.', '.', '.'] then lexer.documentMarker .documentEnd
  else if character = '[' then lexer.openFlow .flowSequenceStart
  else if character = '{' then lexer.openFlow .flowMappingStart
  else if character = ']' then lexer.closeFlow .flowSequenceEnd
  else if character = '}' then lexer.closeFlow .flowMappingEnd
  else if character = ',' then lexer.flowEntry
  else if character = '-' && separated then
    lexer.blockIndicator .blockSequenceStart .blockEntry true
  else if character = '?' && (inFlow || separated) then
    lexer.blockIndicator .blockMappingStart .key (!inFlow)
  else if character = ':' && (inFlow || separated) then lexer.valueIndicator
  else if character = '*' then lexer.named .reference
  else if character = '&' then lexer.named .anchor
  else if character = '!' then lexer.tag
  else if character = '|' && !inFlow then lexer.block .literal
  else if character = '>' && !inFlow then lexer.block .other
  else if character = '\'' || character = '"' then lexer.quoted character
  else if isIndicator character || isSpace character then none
  else lexer.plain

def run : Nat → Lexer → Option (List Token)
  | 0, _ => none
  | fuel + 1, lexer => do
    let lexer := skipSeparation lexer.cursor.rest.length lexer
    let lexer ← lexer.dropStale
    match lexer.cursor.rest with
    | [] =>
      let lexer ← lexer.unindentAll.dropCandidate
      some lexer.tokens.toList
    | character :: _ => run fuel (← lexer.unindent.readToken character)

end Lexer

def Token.ofText? (text : String) : Option (List Token) :=
  let characters := text.toList
  if characters.all isAllowed then
    (Lexer.start characters).run (characters.length + 1)
  else none

end LocalRepair.Yaml

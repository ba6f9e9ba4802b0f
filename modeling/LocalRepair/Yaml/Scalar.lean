import LocalRepair.Text.Integer
import LocalRepair.Yaml.Cursor

/-!
# Scalars in a document

A scalar is written plainly, between apostrophes, where a doubled apostrophe stands for one, or
between quotes, where a backslash begins an escape.  All three may run over several lines; ends of
lines then fold as `Gap.folded` says.  The readers return the characters of the scalar and the
cursor behind it, and nothing for a scalar that is malformed.
-/

namespace LocalRepair.Yaml

/-- The character that an escape of one letter stands for. -/
def simpleEscape? : Char → Option Char
  | '0' => some '\x00'
  | 'a' => some '\x07'
  | 'b' => some '\x08'
  | 't' | '\t' => some '\t'
  | 'n' => some '\n'
  | 'v' => some '\x0b'
  | 'f' => some '\x0c'
  | 'r' => some '\r'
  | 'e' => some '\x1b'
  | ' ' => some ' '
  | '"' => some '"'
  | '/' => some '/'
  | '\\' => some '\\'
  | 'N' => some '\u0085'
  | '_' => some '\u00a0'
  | 'L' => some '\u2028'
  | 'P' => some '\u2029'
  | _ => none

/-- The number of hexadecimal digits that an escape letter announces. -/
def escapeDigits? : Char → Option Nat
  | 'x' => some 2
  | 'u' => some 4
  | 'U' => some 8
  | _ => none

def hexadecimal? (digits : List Char) : Option Nat :=
  digits.foldlM
    (fun value digit => (Text.digitValue? 16 digit).map (value * 16 + ·)) 0

/-- The character that an escape stands for, and the length of what follows the backslash. -/
def escape? (letter : Char) (following : List Char) : Option (Char × Nat) :=
  match simpleEscape? letter with
  | some character => some (character, 1)
  | none => do
    let count ← escapeDigits? letter
    let digits := following.take count
    if digits.length < count then none
    else
      let code ← hexadecimal? digits
      if code.isValidChar then some (Char.ofNat code, count + 1) else none

/-- How quoted text goes on after some of its characters. -/
inductive QuotedPart where
  | closed (characters : List Char) (cursor : Cursor)
  /-- A gap or the end of the document begins here. -/
  | gap (characters : List Char) (cursor : Cursor)
  /-- A backslash has escaped the end of the line, so what follows continues without a space. -/
  | joined (characters : List Char) (cursor : Cursor)

/-- Reads quoted text up to the next gap.  The characters read so far come last first. -/
def readQuotedPart (quote : Char) : Nat → List Char → Cursor → Option QuotedPart
  | 0, _, _ => none
  | fuel + 1, characters, cursor =>
    match cursor.rest with
    | [] => some (.gap characters cursor)
    | character :: following =>
      if isSpace character || isBreak character then some (.gap characters cursor)
      else if character = '\'' ∧ quote = '\'' then
        if following.head? = some '\'' then
          readQuotedPart quote fuel ('\'' :: characters) (cursor.skip 2)
        else some (.closed characters cursor.next)
      else if character = quote then some (.closed characters cursor.next)
      else if character = '\\' ∧ quote = '"' then
        match following with
        | [] => none
        | letter :: rest =>
          if isBreak letter then some (.joined characters cursor.next.nextLine)
          else do
            let (escaped, length) ← escape? letter rest
            readQuotedPart quote fuel (escaped :: characters) (cursor.skip (length + 1))
      else readQuotedPart quote fuel (character :: characters) cursor.next

/-- Reads quoted text up to the closing quote. -/
def readQuoted (quote : Char) : Nat → List Char → Cursor → Option (List Char × Cursor)
  | 0, _, _ => none
  | fuel + 1, characters, cursor =>
    if cursor.atDocumentMarker then none
    else do
      match ← readQuotedPart quote (cursor.rest.length + 1) characters cursor with
      | .closed characters cursor => some (characters.reverse, cursor)
      | .gap characters cursor =>
        if cursor.rest = [] then none
        else
          let (gap, cursor) ← cursor.skipGap 0 cursor.rest.length ⟨[], []⟩
          readQuoted quote fuel (gap.folded.reverse ++ characters) cursor
      | .joined characters cursor =>
        let (gap, cursor) ← cursor.skipGap 0 cursor.rest.length ⟨[], ['\n']⟩
        let kept := gap.breaks.drop 1
        readQuoted quote fuel (kept.reverse ++ characters) cursor

/-- The quoted scalar whose opening quote stands at the cursor. -/
def quotedScalar? (quote : Char) (cursor : Cursor) : Option (String × Cursor) := do
  let (characters, cursor) ← readQuoted quote (cursor.rest.length + 1) [] cursor.next
  some (String.ofList characters, cursor)

/-- Whether a character has a meaning of its own inside flow collections. -/
def isFlowIndicator (character : Char) : Bool :=
  character = ',' || character = '[' || character = ']' || character = '{' || character = '}'

/-- Reads the characters of a plain scalar up to the next gap or to where it ends. -/
def readPlainWord (inFlow : Bool) : Nat → List Char → Cursor → Option (List Char × Cursor)
  | 0, characters, cursor => some (characters, cursor)
  | fuel + 1, characters, cursor =>
    match cursor.rest with
    | [] => some (characters, cursor)
    | character :: following =>
      if isSpace character || isBreak character then some (characters, cursor)
      else if inFlow && character = ':' &&
          (following.head?.any fun second => isFlowIndicator second || second = '?') then none
      else if character = ':' && cursor.separatedAt 1 then some (characters, cursor)
      else if inFlow && isFlowIndicator character then some (characters, cursor)
      else readPlainWord inFlow fuel (character :: characters) cursor.next

/-- The characters of a plain scalar, the cursor behind it and the gap that follows it, and
whether that gap ends a line. -/
structure PlainScalar where
  characters : List Char
  cursor : Cursor
  endsLine : Bool

/-- Reads words of a plain scalar.  Outside flow collections a line that is indented by less than
`indent` columns ends the scalar. -/
def readPlain (inFlow : Bool) (indent : Nat) :
    Nat → List Char → Gap → Cursor → Option PlainScalar
  | 0, _, _, _ => none
  | fuel + 1, characters, gap, cursor =>
    let ended : PlainScalar := ⟨characters.reverse, cursor, gap.breaks ≠ []⟩
    if cursor.atDocumentMarker || cursor.rest.head? = some '#' then some ended
    else do
      let (word, behind) ← readPlainWord inFlow cursor.rest.length [] cursor
      if word = [] then some ended
      else
        let characters := word ++ gap.folded.reverse ++ characters
        let (gap, next) ← behind.skipGap indent behind.rest.length ⟨[], []⟩
        if next.index = behind.index then some ⟨characters.reverse, next, false⟩
        else if !inFlow && next.column < indent then
          some ⟨characters.reverse, next, gap.breaks ≠ []⟩
        else readPlain inFlow indent fuel characters gap next

def plainScalar? (inFlow : Bool) (indent : Nat) (cursor : Cursor) : Option PlainScalar :=
  readPlain inFlow indent (cursor.rest.length + 1) [] ⟨[], []⟩ cursor

end LocalRepair.Yaml

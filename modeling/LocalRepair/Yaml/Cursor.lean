/-!
# Positions in a text

A cursor is what remains of a text, with the line and the column it begins at and the number of
bytes before it in UTF-8.  A line ends with a line feed, a carriage return, both in that order, or
one of three Unicode separators.
-/

namespace LocalRepair.Yaml

def isBreak (character : Char) : Bool :=
  character = '\n' || character = '\r' || character = '\u0085' || character = '\u2028' ||
    character = '\u2029'

/-- Whether a character separates tokens within a line. -/
def isSpace (character : Char) : Bool :=
  character = ' ' || character = '\t'

/-- Whether a character may occur in a document at all. -/
def isAllowed (character : Char) : Bool :=
  let code := character.toNat
  code = 0x09 || code = 0x0A || code = 0x0D || (0x20 ≤ code && code ≤ 0x7E) || code = 0x85 ||
    (0xA0 ≤ code && code ≤ 0xD7FF) || (0xE000 ≤ code && code ≤ 0xFFFD) || 0x10000 ≤ code

/-- The rest of a text and where it begins. -/
structure Cursor where
  rest : List Char
  line : Nat
  column : Nat
  index : Nat

namespace Cursor

def start (text : List Char) : Cursor :=
  ⟨text, 0, 0, 0⟩

def next (cursor : Cursor) : Cursor :=
  match cursor.rest with
  | character :: rest =>
    ⟨rest, cursor.line, cursor.column + 1, cursor.index + character.utf8Size⟩
  | [] => cursor

def skip (cursor : Cursor) : Nat → Cursor
  | 0 => cursor
  | count + 1 => skip cursor.next count

def nextLine (cursor : Cursor) : Cursor :=
  match cursor.rest with
  | '\r' :: '\n' :: rest => ⟨rest, cursor.line + 1, 0, cursor.index + 2⟩
  | character :: rest => ⟨rest, cursor.line + 1, 0, cursor.index + character.utf8Size⟩
  | [] => cursor

def skipWhile (cursor : Cursor) (property : Char → Bool) : Cursor :=
  cursor.skip (cursor.rest.takeWhile property).length

/-- Skips the rest of a line that holds nothing but a comment, and its end. -/
def endLine? (cursor : Cursor) : Option Cursor :=
  let cursor := cursor.skipWhile isSpace
  let cursor :=
    if cursor.rest.head? = some '#' then cursor.skipWhile fun character => !isBreak character
    else cursor
  match cursor.rest with
  | [] => some cursor
  | character :: _ => if isBreak character then some cursor.nextLine else none

/-- Whether the character some places ahead separates tokens, ends a line or is missing. -/
def separatedAt (cursor : Cursor) (distance : Nat) : Bool :=
  match cursor.rest[distance]? with
  | none => true
  | some character => isSpace character || isBreak character

/-- Whether a marker of three characters stands here at the beginning of a line. -/
def atMarker (cursor : Cursor) (marker : List Char) : Bool :=
  cursor.column = 0 && cursor.rest.take 3 = marker && cursor.separatedAt 3

/-- Whether the beginning or the end of a document is marked here. -/
def atDocumentMarker (cursor : Cursor) : Bool :=
  cursor.atMarker ['-', '-', '-'] || cursor.atMarker ['.', '.', '.']

end Cursor

/-- The character by which a scalar represents the end of a line. -/
def breakCharacter (character : Char) : Char :=
  if character = '\u2028' || character = '\u2029' then character else '\n'

/-- The spaces before the first end of line, and the ends of lines, of a stretch of both. -/
structure Gap where
  spaces : List Char
  breaks : List Char

namespace Gap

/-- What a gap inside a scalar stands for.  One end of line folds into a space, more keep all but
the first, and a gap within a line stands for itself. -/
def folded (gap : Gap) : List Char :=
  match gap.breaks with
  | [] => gap.spaces
  | ['\n'] => [' ']
  | '\n' :: breaks => breaks
  | breaks => breaks

end Gap

/-- Skips spaces and ends of lines.  There is no gap if a tab indents a line up to less than
`indent` columns. -/
def Cursor.skipGap (indent : Nat) : Nat → Gap → Cursor → Option (Gap × Cursor)
  | 0, gap, cursor => some (gap, cursor)
  | fuel + 1, gap, cursor =>
    match cursor.rest with
    | [] => some (gap, cursor)
    | character :: _ =>
      if isSpace character then
        if gap.breaks = [] then
          skipGap indent fuel { gap with spaces := gap.spaces ++ [character] } cursor.next
        else if cursor.column < indent ∧ character = '\t' then none
        else skipGap indent fuel gap cursor.next
      else if isBreak character then
        skipGap indent fuel { gap with breaks := gap.breaks ++ [breakCharacter character] }
          cursor.nextLine
      else some (gap, cursor)

end LocalRepair.Yaml

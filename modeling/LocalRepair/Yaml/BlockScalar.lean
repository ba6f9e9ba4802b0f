import LocalRepair.Yaml.Scalar

/-!
# Block scalars

A block scalar is text in lines of its own, behind a bar or an angle bracket and a header.  The
header may give the indentation of the text, which is otherwise that of its first line, and says
what becomes of the ends of lines at the end of the text.  Behind a bar every line keeps its end.
Behind an angle bracket an end of line folds into a space, unless a line beside it begins with one.
-/

namespace LocalRepair.Yaml

/-- What becomes of the ends of lines at the end of a block scalar: all go, only the first stays, or
all stay. -/
inductive Chomping where
  | strip
  | clip
  | keep
deriving DecidableEq, Repr

def chomping? (cursor : Cursor) : Option (Chomping × Cursor) :=
  match cursor.rest with
  | '-' :: _ => some (.strip, cursor.next)
  | '+' :: _ => some (.keep, cursor.next)
  | _ => none

/-- The indentation that a header gives, relative to what is around the scalar, or zero if it gives
none.  It must not be written as zero. -/
def increment? (cursor : Cursor) : Option (Nat × Cursor) :=
  match cursor.rest with
  | [] => some (0, cursor)
  | character :: _ =>
    if character = '0' then none
    else if character.isDigit then some (character.toNat - '0'.toNat, cursor.next)
    else some (0, cursor)

/-- What the header of a block scalar says, in either order, and the cursor behind it. -/
def blockHeader? (cursor : Cursor) : Option (Chomping × Nat × Cursor) :=
  match chomping? cursor with
  | some (chomping, cursor) => do
    let (increment, cursor) ← increment? cursor
    some (chomping, increment, cursor)
  | none => do
    let (increment, cursor) ← increment? cursor
    let (chomping, cursor) := (chomping? cursor).getD (.clip, cursor)
    some (chomping, increment, cursor)

/-- Skips the indentation of a line, no further than to the column `indent` if there is one. -/
def Cursor.skipIndentation (indent : Option Nat) : Nat → Cursor → Cursor
  | 0, cursor => cursor
  | fuel + 1, cursor =>
    if cursor.rest.head? = some ' ' ∧ indent.all (cursor.column < ·) then
      skipIndentation indent fuel cursor.next
    else cursor

/-- The empty lines before a line of a block scalar: their ends and the largest column that the
indentation of one of them, or of the line, reaches. -/
structure EmptyLines where
  breaks : List Char
  deepest : Nat

/-- Skips empty lines and the indentation of the line behind them.  A tab must not stand where
indentation may go on. -/
def Cursor.skipEmptyLines (indent : Option Nat) :
    Nat → EmptyLines → Cursor → Option (EmptyLines × Cursor)
  | 0, _, _ => none
  | fuel + 1, lines, cursor =>
    let cursor := cursor.skipIndentation indent cursor.rest.length
    let lines := { lines with deepest := max lines.deepest cursor.column }
    match cursor.rest with
    | [] => some (lines, cursor)
    | character :: _ =>
      if character = '\t' ∧ indent.all (cursor.column < ·) then none
      else if isBreak character then
        let breaks := lines.breaks ++ [breakCharacter character]
        skipEmptyLines indent fuel { lines with breaks := breaks } cursor.nextLine
      else some (lines, cursor)

/-- The lines of a block scalar that have been read, their characters last first, the end of the
last one and the ends of the empty lines behind it. -/
structure BlockText where
  characters : List Char
  lineEnd : List Char
  emptyLines : List Char
  /-- Whether the last line begins with a space. -/
  isSpaced : Bool

namespace BlockText

/-- What stands between the lines read so far and the next one. -/
def separator (text : BlockText) (isLiteral nextSpaced : Bool) : List Char :=
  if !isLiteral && text.lineEnd.head? = some '\n' && !text.isSpaced && !nextSpaced then
    if text.emptyLines = [] then [' '] else text.emptyLines
  else text.lineEnd ++ text.emptyLines

/-- Reads the lines that are indented up to a column. -/
def readLines (isLiteral : Bool) (indent : Nat) :
    Nat → BlockText → Cursor → Option (BlockText × Cursor)
  | 0, _, _ => none
  | fuel + 1, text, cursor =>
    if cursor.column ≠ indent ∨ cursor.rest = [] then some (text, cursor)
    else do
      let isSpaced := cursor.rest.head?.any isSpace
      let line := cursor.rest.takeWhile fun character => !isBreak character
      let behind := cursor.skip line.length
      let lineEnd := (behind.rest.head?.map breakCharacter).toList
      let (lines, next) ← behind.nextLine.skipEmptyLines (some indent) cursor.rest.length ⟨[], 0⟩
      let characters :=
        line.reverse ++ (text.separator isLiteral isSpaced).reverse ++ text.characters
      readLines isLiteral indent fuel ⟨characters, lineEnd, lines.breaks, isSpaced⟩ next

def chomp (text : BlockText) : Chomping → List Char
  | .strip => text.characters.reverse
  | .clip => text.characters.reverse ++ text.lineEnd
  | .keep => text.characters.reverse ++ text.lineEnd ++ text.emptyLines

end BlockText

/-- The block scalar whose indicator stands at the cursor.  The collection around it is indented by
`outer` columns, if there is one. -/
def blockScalar? (isLiteral : Bool) (outer : Option Nat) (cursor : Cursor) :
    Option (String × Cursor) := do
  let (chomping, increment, cursor) ← blockHeader? cursor.next
  let cursor ← cursor.endLine?
  let size := cursor.rest.length + 1
  let known := if increment = 0 then none else some (outer.getD 0 + increment)
  let (lines, cursor) ← cursor.skipEmptyLines known size ⟨[], 0⟩
  let least := (outer.map (· + 1)).getD 1
  let indent := known.getD (max lines.deepest least)
  let (text, cursor) ←
    BlockText.readLines isLiteral indent size ⟨[], [], lines.breaks, false⟩ cursor
  some (String.ofList (text.chomp chomping), cursor)

end LocalRepair.Yaml

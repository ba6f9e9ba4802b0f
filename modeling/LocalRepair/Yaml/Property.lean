import LocalRepair.Yaml.Scalar

/-!
# Anchors, tags and directives

Before a node may stand an anchor, by which references name the node, and a tag, which says what
the node is.  A tag is written out between angle brackets, or as a suffix behind a handle, whose
meaning a directive before the document may give.  In tags and in the meanings of handles a per
cent sign begins an octet in hexadecimal digits.  An octet is kept as the character with its code.
-/

namespace LocalRepair.Yaml

/-- Whether a character may stand in the name of an anchor, a handle or a directive. -/
def isWordCharacter (character : Char) : Bool :=
  character.isAlphanum || character = '_' || character = '-'

/-- The word at the cursor, which may be empty, and the cursor behind it. -/
def readWord (cursor : Cursor) : List Char × Cursor :=
  (cursor.rest.takeWhile isWordCharacter, cursor.skipWhile isWordCharacter)

/-- The name of an anchor or a reference behind its indicator. -/
def anchorName? (cursor : Cursor) : Option (String × Cursor) :=
  let (word, behind) := readWord cursor
  let ends := behind.separatedAt 0 ||
    behind.rest.head?.any (['?', ':', ',', ']', '\x7d', '%', '@', '\x60'].contains ·)
  if word ≠ [] ∧ ends then some (String.ofList word, behind) else none

/-! ## Tags -/

/-- Whether a character may stand in a tag.  Commas and brackets may not everywhere. -/
def isTagCharacter (allowsBrackets : Bool) (character : Char) : Bool :=
  isWordCharacter character ||
    [';', '/', '?', ':', '@', '&', '=', '+', '$', '.', '%', '!', '~', '*', '\'', '(', ')'].contains
      character ||
    (allowsBrackets && [',', '[', ']'].contains character)

/-- The octet that is written behind a per cent sign at the cursor. -/
def octet? (cursor : Cursor) : Option Nat :=
  match cursor.rest with
  | '%' :: high :: low :: _ => hexadecimal? [high, low]
  | _ => none

/-- The number of octets that follow the first one of a character in UTF-8. -/
def followingOctets? (first : Nat) : Option Nat :=
  if first < 0x80 then some 0
  else if first / 0x20 = 6 then some 1
  else if first / 0x10 = 14 then some 2
  else if first / 0x08 = 30 then some 3
  else none

def readFollowing : Nat → Cursor → Option (List Char × Cursor)
  | 0, cursor => some ([], cursor)
  | count + 1, cursor => do
    let octet ← octet? cursor
    if octet / 0x40 = 2 then
      let (octets, cursor) ← readFollowing count (cursor.skip 3)
      some (Char.ofNat octet :: octets, cursor)
    else none

/-- The octets of a character that is written with per cent signs. -/
def readEscaped (cursor : Cursor) : Option (List Char × Cursor) := do
  let first ← octet? cursor
  let count ← followingOctets? first
  let (octets, cursor) ← readFollowing count (cursor.skip 3)
  some (Char.ofNat first :: octets, cursor)

/-- The characters of a tag at the cursor, as far as they go. -/
def readTagText (allowsBrackets : Bool) : Nat → Cursor → Option (List Char × Cursor)
  | 0, _ => none
  | fuel + 1, cursor =>
    match cursor.rest with
    | [] => some ([], cursor)
    | character :: _ =>
      if !isTagCharacter allowsBrackets character then some ([], cursor)
      else do
        let (first, cursor) ←
          if character = '%' then readEscaped cursor else some ([character], cursor.next)
        let (characters, cursor) ← readTagText allowsBrackets fuel cursor
        some (first ++ characters, cursor)

/-- A tag as it is written: a handle, empty if there is none, and what stands behind it. -/
structure TagName where
  handle : String
  suffix : String
deriving DecidableEq, Repr

/-- The handle at the cursor: a word between exclamation marks, of which the second may be
missing. -/
def readHandle (cursor : Cursor) : List Char × Cursor :=
  let (word, behind) := readWord cursor.next
  if behind.rest.head? = some '!' then ('!' :: word ++ ['!'], behind.next)
  else ('!' :: word, behind)

/-- Whether a handle ends with a second exclamation mark. -/
def isClosedHandle (handle : List Char) : Bool :=
  1 < handle.length && handle.getLast? = some '!'

/-- The tag between angle brackets at the cursor. -/
def verbatimTag? (cursor : Cursor) : Option (TagName × Cursor) := do
  let (suffix, cursor) ← readTagText true (cursor.rest.length + 1) (cursor.skip 2)
  match cursor.rest with
  | '>' :: _ => if suffix = [] then none else some (⟨"", String.ofList suffix⟩, cursor.next)
  | _ => none

/-- The tag with a handle at the cursor.  Behind a single exclamation mark its word belongs to the
suffix, and the mark alone is a tag without a handle. -/
def shorthandTag? (cursor : Cursor) : Option (TagName × Cursor) := do
  let (handle, behind) := readHandle cursor
  let (characters, behind) ← readTagText false (behind.rest.length + 1) behind
  if isClosedHandle handle then
    if characters = [] then none
    else some (⟨String.ofList handle, String.ofList characters⟩, behind)
  else
    let suffix := handle.drop 1 ++ characters
    some (if suffix = [] then ⟨"", "!"⟩ else ⟨"!", String.ofList suffix⟩, behind)

/-- The tag whose exclamation mark stands at the cursor. -/
def tagName? (inFlow : Bool) (cursor : Cursor) : Option (TagName × Cursor) := do
  let (name, behind) ←
    if cursor.rest[1]? = some '<' then verbatimTag? cursor else shorthandTag? cursor
  if behind.separatedAt 0 || (inFlow && behind.rest.head? = some ',') then some (name, behind)
  else none

/-! ## Directives -/

/-- What stands before a document: the version of the language, or what a handle means. -/
inductive Directive where
  | version (major minor : Nat)
  | handle (handle meaning : String)
deriving DecidableEq, Repr

/-- A number of a version, of at most nine digits. -/
def versionNumber? (cursor : Cursor) : Option (Nat × Cursor) :=
  let digits := cursor.rest.takeWhile Char.isDigit
  if digits = [] ∨ 9 < digits.length then none
  else
    let value := digits.foldl (fun value digit => value * 10 + (digit.toNat - '0'.toNat)) 0
    some (value, cursor.skip digits.length)

def versionDirective? (cursor : Cursor) : Option (Directive × Cursor) := do
  let (major, cursor) ← versionNumber? cursor
  match cursor.rest with
  | '.' :: _ =>
    let (minor, cursor) ← versionNumber? cursor.next
    some (.version major minor, cursor)
  | _ => none

def handleDirective? (cursor : Cursor) : Option (Directive × Cursor) := do
  if cursor.rest.head? ≠ some '!' then none
  else
    let (handle, cursor) := readHandle cursor
    if !(handle = ['!'] || isClosedHandle handle) || !cursor.rest.head?.any isSpace then none
    else
      let cursor := cursor.skipWhile isSpace
      let (meaning, cursor) ← readTagText true (cursor.rest.length + 1) cursor
      if meaning = [] ∨ !cursor.separatedAt 0 then none
      else some (.handle (String.ofList handle) (String.ofList meaning), cursor)

/-- The directive whose per cent sign stands at the cursor, up to the end of its line. -/
def directive? (cursor : Cursor) : Option (Directive × Cursor) := do
  let (name, cursor) := readWord cursor.next
  if !cursor.separatedAt 0 then none
  else
    let cursor := cursor.skipWhile isSpace
    let (directive, cursor) ←
      if name = "YAML".toList then versionDirective? cursor
      else if name = "TAG".toList then handleDirective? cursor
      else none
    some (directive, ← cursor.endLine?)

end LocalRepair.Yaml

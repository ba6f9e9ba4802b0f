import LocalRepair.Decimal.Text

/-!
# Structured output

Reports can be written as JSON: objects keep the order of their fields, every entry stands on a
line of its own, indented by two blanks for each level, and empty lists and objects take no line.
-/

namespace LocalRepair

inductive Json where
  | text (value : String)
  | natural (value : Nat)
  | real (value : Float)
  | truth (value : Bool)
  | list (items : List Json)
  | object (fields : List (String × Json))

namespace Json

/-- The four hexadecimal digits of a code point below 65536. -/
def codeDigits (code : Nat) : List Char :=
  [code / 4096, code / 256 % 16, code / 16 % 16, code % 16].map Nat.digitChar

def escaped (character : Char) : List Char :=
  match character with
  | '"' => ['\\', '"']
  | '\\' => ['\\', '\\']
  | '\n' => ['\\', 'n']
  | '\r' => ['\\', 'r']
  | '\t' => ['\\', 't']
  | '\x08' => ['\\', 'b']
  | '\x0c' => ['\\', 'f']
  | other =>
    if other.toNat < 0x20 then '\\' :: 'u' :: codeDigits other.toNat else [other]

def quoted (value : String) : String :=
  String.ofList ('"' :: value.toList.flatMap escaped ++ ['"'])

/-- A line break and the indentation of a level. -/
def newLine (level : Nat) : String :=
  "\n".pushn ' ' (2 * level)

/-- Entries of a level between brackets. -/
def enclosed (opening closing : String) (level : Nat) (entries : List String) : String :=
  if entries = [] then opening ++ closing
  else
    opening ++ newLine (level + 1) ++ ("," ++ newLine (level + 1)).intercalate entries ++
      newLine level ++ closing

mutual

/-- A value whose lines are indented as for a level. -/
def renderAt (level : Nat) : Json → String
  | .text value => quoted value
  | .natural value => toString value
  | .real value => Decimal.structuredText value
  | .truth value => if value then "true" else "false"
  | .list items => enclosed "[" "]" level (renderItems (level + 1) items)
  | .object fields => enclosed "\x7b" "\x7d" level (renderFields (level + 1) fields)

def renderItems (level : Nat) : List Json → List String
  | [] => []
  | item :: items => renderAt level item :: renderItems level items

def renderFields (level : Nat) : List (String × Json) → List String
  | [] => []
  | (name, value) :: fields =>
    (quoted name ++ ": " ++ renderAt level value) :: renderFields level fields

end

def render (value : Json) : String :=
  renderAt 0 value

def naturals (values : List Nat) : Json :=
  .list (values.map .natural)

end Json

end LocalRepair

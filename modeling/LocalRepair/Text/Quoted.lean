import LocalRepair.Text.Printable

/-!
# Quoted text

A message shows a text that it refuses between double quotes, with every character that would
not be legible escaped: quotes, backslashes and the usual control characters by a backslash and
one sign, all others without a glyph by their code point in braces.
-/

namespace LocalRepair.Text

/-- The lower-case hexadecimal digits of a number. -/
def hexadecimal (number : Nat) : List Char :=
  Nat.toDigits 16 number

/-- One character as it stands between quotes. -/
def quotedCharacter (character : Char) : List Char :=
  match character with
  | '"' => ['\\', '"']
  | '\\' => ['\\', '\\']
  | '\t' => ['\\', 't']
  | '\n' => ['\\', 'n']
  | '\r' => ['\\', 'r']
  | '\x00' => ['\\', '0']
  | other =>
    if isPrintable other then [other]
    else '\\' :: 'u' :: '\x7b' :: hexadecimal other.toNat ++ ['\x7d']

def quoted (text : String) : String :=
  String.ofList ('"' :: text.toList.flatMap quotedCharacter ++ ['"'])

end LocalRepair.Text

/-!
# Fingerprints of texts

The 64-bit FNV-1a hash of the bytes of a text in UTF-8.  Every byte is joined to the state by
exclusive or before the state is multiplied by a prime, so the fingerprint of two texts one after
the other depends only on the bytes and not on where one text ends.
-/

namespace LocalRepair.Text

/-- The state before the first byte. -/
def fingerprintStart : UInt64 := 0xcbf29ce484222325

/-- The state after one more byte. -/
def fingerprintStep (state : UInt64) (byte : UInt8) : UInt64 :=
  (state ^^^ byte.toUInt64) * 0x100000001b3

/-- The state after the bytes of a text. -/
def fingerprintFrom (state : UInt64) (text : String) : UInt64 :=
  text.toUTF8.toList.foldl fingerprintStep state

/-- The fingerprint of texts one after the other. -/
def fingerprint (texts : List String) : UInt64 :=
  texts.foldl fingerprintFrom fingerprintStart

end LocalRepair.Text

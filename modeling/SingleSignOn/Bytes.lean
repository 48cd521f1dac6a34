namespace SingleSignOn

/-!
# Byte strings

Digests, signatures and request bodies are finite lists of bytes.  A list is
chosen over a packed array because every format of this library is read from
the front, and because its laws are then laws of lists.

Text enters and leaves through UTF-8.  Writing text as bytes never fails;
reading bytes as text fails exactly when they are not well formed.
-/

/-- A finite string of bytes. -/
abbrev Bytes := List UInt8

namespace Bytes

/-- The UTF-8 bytes of a text. -/
def ofString (text : String) : Bytes :=
  text.toUTF8.data.toList

/-- The text whose UTF-8 form these bytes are, if they are well formed. -/
def toString? (bytes : Bytes) : Option String :=
  String.fromUTF8? ⟨bytes.toArray⟩

/-- Big-endian bytes of a number, as many as asked for; higher digits are dropped. -/
def ofNatBE : Nat -> Nat -> Bytes
  | 0, _ => []
  | count + 1, value => (value / 256 ^ count).toUInt8 :: ofNatBE count value

/-- Little-endian bytes of a number, as many as asked for; higher digits are dropped. -/
def ofNatLE : Nat -> Nat -> Bytes
  | 0, _ => []
  | count + 1, value => value.toUInt8 :: ofNatLE count (value / 256)

/-- The number that a big-endian byte string denotes. -/
def toNatBE (bytes : Bytes) : Nat :=
  bytes.foldl (fun value byte => value * 256 + byte.toNat) 0

/-- The number that a little-endian byte string denotes. -/
def toNatLE (bytes : Bytes) : Nat :=
  bytes.foldr (fun byte value => byte.toNat + 256 * value) 0

/-- Bytewise exclusive or with a constant. -/
def mask (pad : UInt8) (bytes : Bytes) : Bytes :=
  bytes.map (· ^^^ pad)

/-- The lower-case hexadecimal digit of a number below sixteen. -/
def hexDigit (value : Nat) : Char :=
  "0123456789abcdef".toList.getD value '0'

/-- Two lower-case hexadecimal digits for each byte. -/
def toHex (bytes : Bytes) : String :=
  String.ofList (bytes.flatMap fun byte => [hexDigit (byte.toNat / 16), hexDigit (byte.toNat % 16)])

/-- The value of a hexadecimal digit of either case. -/
def hexValue? (digit : UInt8) : Option Nat :=
  let code := digit.toNat
  if 48 ≤ code ∧ code ≤ 57 then some (code - 48)
  else if 97 ≤ code ∧ code ≤ 102 then some (code - 87)
  else if 65 ≤ code ∧ code ≤ 70 then some (code - 55)
  else none

/-- Reads pairs of hexadecimal digits. -/
def ofHex? : List UInt8 -> Option Bytes
  | [] => some []
  | high :: low :: rest => do
    let upper ← hexValue? high
    let lower ← hexValue? low
    let others ← ofHex? rest
    return (upper * 16 + lower).toUInt8 :: others
  | [_] => none

theorem toString?_ofString (text : String) : toString? (ofString text) = some text := by
  have packed : (⟨(ofString text).toArray⟩ : ByteArray) = text.toUTF8 := by
    simp [ofString]
  simp only [toString?, packed, String.fromUTF8?]
  rw [dif_pos (by simpa using text.isValidUTF8)]
  rfl

end Bytes

end SingleSignOn

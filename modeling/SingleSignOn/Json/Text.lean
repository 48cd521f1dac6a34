import SingleSignOn.Bytes

namespace SingleSignOn.Json

/-!
# JSON string literals

A literal is handled on the level of bytes.  `scanLiteral` finds where it
ends and checks only its escapes and control bytes; that is all that is
asked of a value that nobody reads.  `unescape?` gives the bytes it stands
for and is stricter: surrogates must come in pairs.  Whether those bytes are
UTF-8 is a third question, asked by `decode?`.

`escape` is the inverse on the writing side: it touches only quotes,
backslashes and control bytes, which never occur inside a longer UTF-8
sequence.
-/

/-- What a one-letter escape stands for. -/
def shortEscape? (letter : UInt8) : Option UInt8 :=
  match letter with
  | 0x22 => some 0x22
  | 0x5c => some 0x5c
  | 0x2f => some 0x2f
  | 0x62 => some 0x08
  | 0x66 => some 0x0c
  | 0x6e => some 0x0a
  | 0x72 => some 0x0d
  | 0x74 => some 0x09
  | _ => none

/-- The number that four hexadecimal digits denote. -/
def hexUnit? (first second third fourth : UInt8) : Option Nat := do
  return (← Bytes.hexValue? first) * 4096 + (← Bytes.hexValue? second) * 256 +
    (← Bytes.hexValue? third) * 16 + (← Bytes.hexValue? fourth)

/-- Splits the bytes after an opening quote into the literal's raw content
and what follows the closing quote. -/
def scanLiteral : Bytes -> Option (Bytes × Bytes)
  | [] => none
  | 0x22 :: rest => some ([], rest)
  | 0x5c :: 0x75 :: first :: second :: third :: fourth :: rest =>
    match hexUnit? first second third fourth, scanLiteral rest with
    | some _, some (raw, after) =>
      some (0x5c :: 0x75 :: first :: second :: third :: fourth :: raw, after)
    | _, _ => none
  | 0x5c :: letter :: rest =>
    match shortEscape? letter, scanLiteral rest with
    | some _, some (raw, after) => some (0x5c :: letter :: raw, after)
    | _, _ => none
  | byte :: rest =>
    if byte < 0x20 ∨ byte = 0x5c then none
    else match scanLiteral rest with
      | some (raw, after) => some (byte :: raw, after)
      | none => none

/-- Whether a code unit is the first half of a surrogate pair. -/
def isHighSurrogate (unit : Nat) : Bool := 0xD800 ≤ unit && unit ≤ 0xDBFF

/-- Whether a code unit is the second half of a surrogate pair. -/
def isLowSurrogate (unit : Nat) : Bool := 0xDC00 ≤ unit && unit ≤ 0xDFFF

/-- The UTF-8 bytes of a code point. -/
def codePointBytes (code : Nat) : Bytes :=
  String.utf8EncodeChar (Char.ofNat code)

/-- The bytes that the raw content of a literal stands for. -/
def unescape? : Bytes -> Option Bytes
  | [] => some []
  | 0x5c :: 0x75 :: first :: second :: third :: fourth :: rest => do
    let unit ← hexUnit? first second third fourth
    if isLowSurrogate unit then none
    else if isHighSurrogate unit then
      match rest with
      | 0x5c :: 0x75 :: fifth :: sixth :: seventh :: eighth :: rest => do
        let low ← hexUnit? fifth sixth seventh eighth
        if isLowSurrogate low then
          return codePointBytes (0x10000 + (unit - 0xD800) * 1024 + (low - 0xDC00)) ++ (← unescape? rest)
        else none
      | _ => none
    else return codePointBytes unit ++ (← unescape? rest)
  | 0x5c :: letter :: rest => do
    let byte ← shortEscape? letter
    return byte :: (← unescape? rest)
  | byte :: rest => do
    if byte < 0x20 ∨ byte = 0x5c ∨ byte = 0x22 then none
    else return byte :: (← unescape? rest)

/-- Whether the only fault of the raw content of a literal is half a surrogate
pair at its end.  Who looks for the other half meets the closing quote, and so
stands behind the literal when the fault is found. -/
def endsInHalfPair (raw : Bytes) : Bool :=
  match raw.drop (raw.length - 6) with
  | [0x5c, 0x75, first, second, third, fourth] =>
    (hexUnit? first second third fourth).any isHighSurrogate &&
      (unescape? (raw.take (raw.length - 6))).isSome
  | _ => false

/-- The text that the raw content of a literal stands for. -/
def decode? (raw : Bytes) : Option String :=
  (unescape? raw).bind Bytes.toString?

/-- How one byte is written inside a literal. -/
def escapeByte (byte : UInt8) : Bytes :=
  match byte with
  | 0x22 => [0x5c, 0x22]
  | 0x5c => [0x5c, 0x5c]
  | 0x08 => [0x5c, 0x62]
  | 0x0c => [0x5c, 0x66]
  | 0x0a => [0x5c, 0x6e]
  | 0x0d => [0x5c, 0x72]
  | 0x09 => [0x5c, 0x74]
  | byte =>
    if byte < 0x20 then
      [0x5c, 0x75, 0x30, 0x30] ++ [byte.toNat / 16, byte.toNat % 16].map fun digit =>
        (Bytes.hexDigit digit).toNat.toUInt8
    else [byte]

/-- The raw content of the literal of a byte string. -/
def escape (bytes : Bytes) : Bytes :=
  bytes.flatMap escapeByte

end SingleSignOn.Json

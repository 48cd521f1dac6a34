import SingleSignOn.Bytes

namespace SingleSignOn.Base64

/-!
# Base64 without padding

Three bytes are written as four digits of six bits; one or two bytes left
over are written as two or three digits.  Decoding is exact: unused low bits
of a last digit must be zero, so a byte string has one written form in each
alphabet.

Tokens use the URL-safe alphabet, password hashes the standard one.
-/

/-- The two digits in which the alphabets differ. -/
structure Alphabet where
  digit62 : Char
  digit63 : Char

/-- The alphabet of tokens. -/
def urlSafe : Alphabet := ⟨'-', '_'⟩

/-- The alphabet of password hashes. -/
def standard : Alphabet := ⟨'+', '/'⟩

namespace Alphabet

/-- The digit of a value below sixty-four. -/
def digit (alphabet : Alphabet) (value : Nat) : Char :=
  if value < 26 then Char.ofNat (65 + value)
  else if value < 52 then Char.ofNat (71 + value)
  else if value < 62 then Char.ofNat (value - 4)
  else if value = 62 then alphabet.digit62
  else alphabet.digit63

/-- The value of a digit. -/
def value? (alphabet : Alphabet) (char : Char) : Option Nat :=
  let code := char.toNat
  if 65 ≤ code ∧ code ≤ 90 then some (code - 65)
  else if 97 ≤ code ∧ code ≤ 122 then some (code - 71)
  else if 48 ≤ code ∧ code ≤ 57 then some (code + 4)
  else if char = alphabet.digit62 then some 62
  else if char = alphabet.digit63 then some 63
  else none

end Alphabet

/-- The digits of a byte string. -/
def encode (alphabet : Alphabet) : Bytes -> List Char
  | first :: second :: third :: rest =>
    let group := first.toNat * 65536 + second.toNat * 256 + third.toNat
    alphabet.digit (group / 262144) :: alphabet.digit (group / 4096 % 64) ::
      alphabet.digit (group / 64 % 64) :: alphabet.digit (group % 64) :: encode alphabet rest
  | [first, second] =>
    let group := first.toNat * 1024 + second.toNat * 4
    [alphabet.digit (group / 4096), alphabet.digit (group / 64 % 64), alphabet.digit (group % 64)]
  | [first] =>
    let group := first.toNat * 16
    [alphabet.digit (group / 64), alphabet.digit (group % 64)]
  | [] => []

/-- The byte string whose digits these are, if there is one. -/
def decode? (alphabet : Alphabet) : List Char -> Option Bytes
  | first :: second :: third :: fourth :: rest => do
    let group := (← alphabet.value? first) * 262144 + (← alphabet.value? second) * 4096 +
      (← alphabet.value? third) * 64 + (← alphabet.value? fourth)
    let others ← decode? alphabet rest
    return (group / 65536).toUInt8 :: (group / 256 % 256).toUInt8 :: (group % 256).toUInt8 :: others
  | [first, second, third] => do
    let group := (← alphabet.value? first) * 4096 + (← alphabet.value? second) * 64 +
      (← alphabet.value? third)
    if group % 4 = 0 then some [(group / 1024).toUInt8, (group / 4 % 256).toUInt8] else none
  | [first, second] => do
    let group := (← alphabet.value? first) * 64 + (← alphabet.value? second)
    if group % 16 = 0 then some [(group / 16).toUInt8] else none
  | [_] => none
  | [] => some []

end SingleSignOn.Base64

import SingleSignOn.Bytes
import SingleSignOn.Text.Decimal

namespace SingleSignOn.Json

/-!
# JSON numbers

A number is kept as it was written, split into sign, whole part, fraction
and exponent.  Two questions are asked of it: is it an integer literal of 64
bits, and, where its type is wrong anyway, is it at least small enough to be
a number at all.
-/

/-- A number literal.  Fraction and exponent are absent if they were not written. -/
structure Number where
  negative : Bool
  whole : List (Fin 10)
  fraction : Option (List (Fin 10))
  exponent : Option Int
  deriving DecidableEq, Repr

/-- The digits at the front of a byte string, and the rest. -/
def takeDigits : Bytes -> List (Fin 10) × Bytes
  | [] => ([], [])
  | byte :: rest =>
    match Decimal.ofByte? byte with
    | some digit => let (digits, after) := takeDigits rest; (digit :: digits, after)
    | none => ([], byte :: rest)

namespace Number

/-- An exponent after its mark: an optional sign and at least one digit. -/
def scanExponent (bytes : Bytes) : Option (Int × Bytes) :=
  let (negative, unsigned) := match bytes with
    | 0x2d :: rest => (true, rest)
    | 0x2b :: rest => (false, rest)
    | _ => (false, bytes)
  match takeDigits unsigned with
  | ([], _) => none
  | (digits, after) =>
    let magnitude := Int.ofNat (Decimal.value digits)
    some (if negative then -magnitude else magnitude, after)

/-- What follows the mantissa: an exponent, or nothing of the number. -/
def scanTail (negative : Bool) (whole : List (Fin 10)) (fraction : Option (List (Fin 10))) :
    Bytes -> Option (Number × Bytes)
  | bytes@(mark :: rest) =>
    if mark = 0x65 ∨ mark = 0x45 then
      (scanExponent rest).map fun (exponent, after) => (⟨negative, whole, fraction, some exponent⟩, after)
    else some (⟨negative, whole, fraction, none⟩, bytes)
  | [] => some (⟨negative, whole, fraction, none⟩, [])

/-- The number literal at the front of a byte string, and the rest.  The
whole part has no leading zero; a point is followed by a digit. -/
def scan (bytes : Bytes) : Option (Number × Bytes) :=
  let (negative, unsigned) := match bytes with
    | 0x2d :: rest => (true, rest)
    | _ => (false, bytes)
  match takeDigits unsigned with
  | ([], _) => none
  | (whole, after) =>
    if whole.length > 1 ∧ whole.head? = some 0 then none
    else match after with
      | 0x2e :: rest =>
        match takeDigits rest with
        | ([], _) => none
        | (fraction, after) => scanTail negative whole (some fraction) after
      | _ => scanTail negative whole none after

/-- The signed 64-bit integer that the literal writes without fraction and
exponent.  A zero with a minus sign is no integer literal. -/
def int64? (number : Number) : Option Int :=
  let magnitude := Int.ofNat (Decimal.value number.whole)
  if number.fraction.isNone ∧ number.exponent.isNone ∧ ¬(number.negative ∧ magnitude = 0) then
    let signed := if number.negative then -magnitude else magnitude
    if Decimal.FitsInt64 signed then some signed else none
  else none

/-- The greatest significand that is kept, the greatest unsigned 64-bit number. -/
def significandLimit : Nat := 18446744073709551615

/-- Takes digits into a significand for as long as it can be kept, and counts
the digits that are left out. -/
def takeIn (significand : Nat) : List (Fin 10) -> Nat × Nat
  | [] => (significand, 0)
  | digit :: digits =>
    let longer := significand * 10 + digit
    if longer ≤ significandLimit then takeIn longer digits else (significand, digits.length + 1)

/-- Significand and power of ten that stand for the literal.  Digits that the
significand cannot take are as good as zeros. -/
def approximation (number : Number) : Nat × Int :=
  let (leading, missed) := takeIn 0 number.whole
  let fraction := number.fraction.getD []
  let (significand, dropped) := takeIn leading fraction
  (significand, number.exponent.getD 0 + missed - (fraction.length - dropped : Nat))

/-- The double-precision number nearest to a whole number; of two equally
near the one with the even significand. -/
def nearestDouble (value : Nat) : Nat :=
  if value.log2 < 53 then value
  else
    let spacing := value.log2 - 52
    let below := value >>> spacing
    let rest := value - below <<< spacing
    let half := 1 <<< (spacing - 1)
    (if half < rest ∨ rest = half ∧ below % 2 = 1 then below + 1 else below) <<< spacing

/-- The least number whose nearest double-precision number would be infinite. -/
def overflowLimit : Nat := 1 <<< 1024 - 1 <<< 970

/-- The greatest power of ten that is a double-precision number. -/
def greatestPower : Nat := 308

/-- Whether the literal can be read as a double-precision number.  It is read
as the product of two such numbers, and the product must not be infinite. -/
def isFinite (number : Number) : Bool :=
  let (significand, power) := number.approximation
  if significand = 0 ∨ power ≤ 0 then true
  else if greatestPower < power then false
  else nearestDouble significand * nearestDouble (Nat.pow 10 power.toNat) < overflowLimit

/-- The greatest exponent that is read to its end, apart from one more digit. -/
def exponentLimit : Int := 2147483647

/-- Whether a reader gives the literal up before its end: it reads no digit
behind the one that takes the exponent over the limit. -/
def isGivenUp (number : Number) : Bool :=
  Decimal.value (number.whole ++ number.fraction.getD []) != 0 &&
    number.exponent.any fun exponent => exponentLimit < exponent / 10

end Number

end SingleSignOn.Json

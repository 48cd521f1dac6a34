namespace SingleSignOn.Decimal

/-!
# Decimal notation

Identifiers, times and cost factors are written in decimal.  A number has one
canonical notation, without leading zeros; the readers differ in what else
they accept, so each format states its own sign and zero rules on top of
`value`.
-/

/-- The digits of a number, most significant first; zero has one digit. -/
def digits (number : Nat) : List (Fin 10) :=
  if small : number < 10 then [⟨number, small⟩]
  else digits (number / 10) ++ [⟨number % 10, Nat.mod_lt _ (by decide)⟩]
termination_by number
decreasing_by exact Nat.div_lt_self (by omega) (by decide)

/-- The number that a digit string denotes; leading zeros count for nothing. -/
def value (written : List (Fin 10)) : Nat :=
  written.foldl (fun number digit => number * 10 + digit.val) 0

/-- The character of a digit. -/
def toChar (digit : Fin 10) : Char :=
  Char.ofNat (48 + digit.val)

/-- The digit that a character shows. -/
def ofChar? (char : Char) : Option (Fin 10) :=
  if shown : 48 ≤ char.toNat ∧ char.toNat < 58 then some ⟨char.toNat - 48, by omega⟩ else none

/-- The ASCII byte of a digit. -/
def toByte (digit : Fin 10) : UInt8 :=
  (48 + digit.val).toUInt8

/-- The digit that an ASCII byte shows. -/
def ofByte? (byte : UInt8) : Option (Fin 10) :=
  if shown : 48 ≤ byte.toNat ∧ byte.toNat < 58 then some ⟨byte.toNat - 48, by omega⟩ else none

/-- The canonical notation of a number. -/
def text (number : Nat) : List Char :=
  (digits number).map toChar

/-- The canonical notation of an integer, a minus sign in front of a negative one. -/
def textOfInt (number : Int) : List Char :=
  if number < 0 then '-' :: text number.natAbs else text number.natAbs

/-- A nonempty string of digits and nothing else, read as a number. -/
def read? (text : List Char) : Option Nat :=
  if text.isEmpty then none else (text.mapM ofChar?).map value

/-- The canonical notation of a number and nothing else: no leading zero beside `0` itself. -/
def readCanonical? (text : List Char) : Option Nat :=
  match text with
  | '0' :: _ :: _ => none
  | _ => read? text

/-- A number with an optional plus sign and any leading zeros, at most `limit`. -/
def readUpTo? (limit : Nat) (text : List Char) : Option Nat :=
  let unsigned := match text with
    | '+' :: rest => rest
    | _ => text
  (read? unsigned).filter (· ≤ limit)

/-- An integer with an optional sign and any leading zeros, between two bounds. -/
def readBetween? (lower upper : Int) (text : List Char) : Option Int :=
  let number := match text with
    | '-' :: rest => (read? rest).map fun magnitude => -Int.ofNat magnitude
    | '+' :: rest => (read? rest).map Int.ofNat
    | _ => (read? text).map Int.ofNat
  number.filter fun found => lower ≤ found ∧ found ≤ upper

/-- The least signed 64-bit integer. -/
def int64Min : Int := -9223372036854775808

/-- The greatest signed 64-bit integer. -/
def int64Max : Int := 9223372036854775807

/-- Whether an integer is a signed 64-bit one. -/
def FitsInt64 (number : Int) : Prop :=
  int64Min ≤ number ∧ number ≤ int64Max

instance (number : Int) : Decidable (FitsInt64 number) :=
  inferInstanceAs (Decidable (_ ∧ _))

/-- A signed 64-bit integer with an optional sign and any leading zeros. -/
def readInt64? (text : List Char) : Option Int :=
  readBetween? int64Min int64Max text

end SingleSignOn.Decimal

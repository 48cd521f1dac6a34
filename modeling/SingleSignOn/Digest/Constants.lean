namespace SingleSignOn.Digest

/-!
# Constants from the roots of primes

The hash functions of this library start from words that nobody could have
chosen freely: leading fraction bits of square and cube roots of the first
primes.  They are computed here from that description instead of being
listed, so the definition is also the reason why they are right.
-/

/-- The first primes, in order. -/
def primes (count : Nat) : List Nat :=
  ((List.range 410).filter fun candidate =>
    2 ≤ candidate ∧ (List.range candidate).all fun divisor => divisor < 2 || candidate % divisor != 0).take count

/-- The largest number, among those of so many bits, whose power is at most `target`. -/
def floorRoot (degree target : Nat) : Nat -> Nat -> Nat
  | 0, found => found
  | bit + 1, found =>
    let candidate := found + 2 ^ bit
    floorRoot degree target bit (if candidate ^ degree ≤ target then candidate else found)

/-- The first `bits` fraction bits of the root of a number below 512. -/
def rootFraction (degree bits number : Nat) : Nat :=
  floorRoot degree (number <<< (degree * bits)) (bits + 5) 0 % (1 <<< bits)

/-- Sixty-four fraction bits of the square roots of the first sixteen primes. -/
def squareRootWords : Array UInt64 :=
  ((primes 16).map fun prime => (rootFraction 2 64 prime).toUInt64).toArray

/-- Sixty-four fraction bits of the cube roots of the first eighty primes. -/
def cubeRootWords : Array UInt64 :=
  ((primes 80).map fun prime => (rootFraction 3 64 prime).toUInt64).toArray

end SingleSignOn.Digest

import SingleSignOn.Password.StoredHash
import SingleSignOn.Primitives

namespace SingleSignOn.Password

/-!
# Hashing and checking passwords

New hashes are made under the costs of the service with a fresh salt.
Checking takes everything from the stored text and nothing from the costs of
the service, so a change of costs leaves old accounts usable.  A stored text
that cannot be read matches no password.
-/

open Digest (Argon2.Request)

/-- The number of bytes of a salt. -/
def saltLength : Nat := 16

/-- The number of bytes of a new hash. -/
def hashLength : Nat := 32

/-- The run of Argon2 for a new hash. -/
def newRequest (cost : Cost) (salt : Bytes) : Argon2.Request :=
  ⟨.hybrid, .adding, cost.memory, cost.passes, cost.lanes, salt, [], hashLength⟩

/-- The fields of a new hash. -/
def newHash (primitives : Primitives) (cost : Cost) (salt : Bytes) (password : String) : StoredHash where
  algorithm := "argon2id".toList
  version := some 19
  parameters := [(['m'], Decimal.text cost.memory), (['t'], Decimal.text cost.passes),
    (['p'], Decimal.text cost.lanes)]
  salt := some (Base64.encode Base64.standard salt)
  hash := some (primitives.derive (newRequest cost salt) (Bytes.ofString password))

/-- The text stored for a password. -/
def hash (primitives : Primitives) (cost : Cost) (salt : Bytes) (password : String) : String :=
  (newHash primitives cost salt password).text

/-- Whether a password is the one behind a stored text. -/
def verify (primitives : Primitives) (password stored : String) : Bool :=
  match (StoredHash.parse? stored).bind StoredHash.request? with
  | some (request, expected) => primitives.derive request (Bytes.ofString password) == expected
  | none => false

end SingleSignOn.Password

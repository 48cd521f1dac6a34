import SingleSignOn.Digest.Argon2
import SingleSignOn.Digest.Sha2

namespace SingleSignOn

/-!
# Cryptographic primitives

The service is built over three functions that it uses as they are: a
digest, a keyed digest and a password hash.  Nothing in its rules depends on
how they compute, so they are a parameter; `Primitives.standard` is what a
running service uses.
-/

/-- The functions that the service relies on. -/
structure Primitives where
  /-- The digest under which refresh tokens are stored. -/
  digest : Bytes -> Bytes
  /-- The signature of a message under a key. -/
  mac : Bytes -> Bytes -> Bytes
  /-- The hash of a password under given costs and salt. -/
  derive : Digest.Argon2.Request -> Bytes -> Bytes

/-- SHA-256, HMAC over SHA-256, and Argon2. -/
def Primitives.standard : Primitives where
  digest := Digest.sha256
  mac := Digest.hmacSha256
  derive := Digest.Argon2.derive

end SingleSignOn

import SingleSignOn.Password.Hasher
import SingleSignOn.Store.Program

namespace SingleSignOn

/-!
# The service and its settings

A service is fixed by its primitives, the lifetimes of its tokens, the time
it gives a store call, and the costs of its password hashes.  It holds no
state of its own; everything that changes is in the stores.
-/

/-- How long tokens live and store calls may take. -/
structure AuthSettings where
  /-- Seconds. -/
  accessTokenLifetime : Nat
  /-- Days.  Any number may be configured, and some are out of range. -/
  refreshTokenDays : Int
  /-- Milliseconds. -/
  storeTimeout : Nat
  deriving DecidableEq, Repr

namespace AuthSettings

/-- The seconds of one day. -/
def secondsPerDay : Int := 86400

/-- The lifetime of a refresh token in seconds, if it is a 64-bit integer. -/
def refreshTokenLifetime? (settings : AuthSettings) : Option Int :=
  let seconds := settings.refreshTokenDays * secondsPerDay
  if Decimal.FitsInt64 seconds then some seconds else none

end AuthSettings

/-- What the operations are built over. -/
structure Service where
  primitives : Primitives
  auth : AuthSettings
  cost : Password.Cost

namespace Service

/-- A service needs costs for which the password hash is defined. -/
def build (primitives : Primitives) (auth : AuthSettings) (cost : Password.Cost) : Except Error Service :=
  if cost.IsValid then .ok ⟨primitives, auth, cost⟩ else .error .internal

/-- A store call within the time that the service gives it. -/
def call (service : Service) (request : StoreCall) : Operation request.Reply :=
  Operation.call service.auth.storeTimeout request

/-- A store call whose failure is looked at by the operation itself. -/
def attempt (service : Service) (request : StoreCall) : Operation (Except Error request.Reply) :=
  Operation.attempt service.auth.storeTimeout request

/-- A call to the store of users, apps and grants. -/
def credentials (service : Service) (request : CredentialCall) : Operation request.Reply :=
  service.call (.credentials request)

/-- A call to the store of refresh tokens. -/
def tokens (service : Service) (request : TokenCall) : Operation request.Reply :=
  service.call (.tokens request)

/-- Hashes a password under a fresh salt. -/
def hashPassword (service : Service) (password : String) : Program String := do
  let salt ← Program.fresh Password.saltLength
  return Password.hash service.primitives service.cost salt password

/-- The number of random bytes of a refresh token or an app secret. -/
def randomTextLength : Nat := 32

/-- A random text that nobody can guess. -/
def randomText : Program String := do
  let bytes ← Program.fresh randomTextLength
  return String.ofList (Base64.encode Base64.urlSafe bytes)

/-- The digest under which a refresh token is stored. -/
def tokenDigest (service : Service) (token : String) : String :=
  Bytes.toHex (service.primitives.digest (Bytes.ofString token))

end Service

end SingleSignOn

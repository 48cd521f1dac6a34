import SingleSignOn.AccessToken.Header
import SingleSignOn.Identity.Session

namespace SingleSignOn.AccessToken

/-!
# Token payloads

The payload of a token is read three ways.  Before the signature is checked
only the app is read, to find the key.  After it, all claims are read.  Both
times the registered claims of the standard are looked at as well: a token
with an audience is refused, because this service names none, and a claim
that cannot even be passed over spoils the payload.
-/

open Json

/-- The mark of an access token. -/
def accessTokenType : String := "access"

/-- What is read before the signature is checked. -/
def unverifiedShape : Shape :=
  { fields := [.nullable "app_id" Parsed.asInt64] }

/-- What is read once the signature is known to be good. -/
def verifiedShape : Shape :=
  { fields := [.nullable "uid" Parsed.asInt64, .nullable "app_id" Parsed.asInt64,
      .defaulted "email" Parsed.asText, .defaulted "is_admin" Parsed.asBoolean,
      .required "exp" Parsed.asInt64, .nullable "type" Parsed.asText] }

/-- The claims of a signed payload, some of which may be missing. -/
structure SignedClaims where
  userId : Option UserId
  appId : Option AppId
  email : String
  isAdmin : Bool
  expiresAt : Int
  tokenType : Option String
  deriving DecidableEq, Repr

/-- Passing over a scalar.  Whatever is wrong with it must show only at its end. -/
def passScalar : Parsed -> Except Fault Unit
  | .number literal => if literal.isGivenUp then .error .malformed else .ok ()
  | .string raw => if (unescape? raw).isSome || endsInHalfPair raw then .ok () else .error .malformed
  | .null => .ok ()
  | .boolean _ => .ok ()
  | _ => .error .malformed

/-- Passing over what should be a number: any scalar, and an empty array or object. -/
def passNumber : Parsed -> Except Fault Unit
  | .array .closed => .ok ()
  | .object .closed => .ok ()
  | value => passScalar value

/-- Passing over a value that would be kept. -/
def passKept (value : Parsed) : Except Fault Unit :=
  if keepValue nestingLeft value = .stuck then .error .malformed else .ok ()

/-- The registered claims of the standard. -/
def registeredShape : Shape :=
  { fields := [⟨"exp", passNumber, true, true⟩, ⟨"nbf", passNumber, true, true⟩,
      ⟨"sub", passScalar, true, false⟩, ⟨"iss", passKept, true, false⟩, ⟨"aud", passKept, true, false⟩] }

/-- Whether a value of the audience claim names an audience: a text, or a
list of texts, which may be empty. -/
def namesAudience : Parsed -> Bool
  | value@(.string _) => value.asText.toBool
  | .array items => allTexts items
  | _ => false

/-- The registered claims can be passed over and name no audience. -/
def checkRegistered (document : Document) : Except Fault Unit := do
  document.read registeredShape.check
  match registeredShape.field? document.root "aud" with
  | some value => if namesAudience value then throw .mismatched
  | none => pure ()

/-- The app that a payload claims to be for, before anything is verified. -/
def unverifiedAppId? (payload : Bytes) : Except Fault (Option AppId) := do
  let document := parse payload
  let appId ← document.read fun value => do
    unverifiedShape.check value
    unverifiedShape.readOptional value "app_id" Parsed.asInt64
  checkRegistered document
  return appId

/-- The claims of a signed payload. -/
def signedClaims? (document : Document) : Except Fault SignedClaims :=
  document.read fun value => do
    verifiedShape.check value
    return {
      userId := ← verifiedShape.readOptional value "uid" Parsed.asInt64
      appId := ← verifiedShape.readOptional value "app_id" Parsed.asInt64
      email := ← verifiedShape.readOr value "email" Parsed.asText ""
      isAdmin := ← verifiedShape.readOr value "is_admin" Parsed.asBoolean false
      expiresAt := ← verifiedShape.read value "exp" Parsed.asInt64
      tokenType := ← verifiedShape.readOptional value "type" Parsed.asText }

/-- The payload of a token that is issued. -/
def payloadBytes (claims : AccessClaims) : Bytes :=
  Value.render (.record [("uid", .integer claims.userId), ("email", .text claims.email),
    ("app_id", .integer claims.appId), ("is_admin", .boolean claims.isAdmin),
    ("exp", .integer claims.expiresAt), ("type", .text accessTokenType)])

end SingleSignOn.AccessToken

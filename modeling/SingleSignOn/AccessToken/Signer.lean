import SingleSignOn.AccessToken.Payload
import SingleSignOn.Error
import SingleSignOn.Primitives
import SingleSignOn.Text.Base64

namespace SingleSignOn.AccessToken

/-!
# Issuing and verifying access tokens

A token is its header, its payload and a signature over both, each in
base64 and joined by dots.  The key is the secret of the app that the token
is for, so a token of one app is worth nothing to another.

Verification has two stages with a look-up between them.  `claimedApp` reads
the app without trusting anything else; `verifyFor` checks the signature
under the secret that was looked up, and only then the other claims.
-/

open Json

/-- Why a token is not accepted. -/
inductive Rejection where
  | malformed
  | unsupportedAlgorithm
  | missingClaim (name : String)
  | expired
  | invalidSignature
  | wrongType
  | unknownApp
  /-- The look-up of the secret failed. -/
  | lookup (cause : Error)
  deriving DecidableEq, Repr

/-- The text of a rejection for logs. -/
def Rejection.message : Rejection -> String
  | malformed => "Token is malformed"
  | unsupportedAlgorithm => "Unsupported signing algorithm"
  | missingClaim name => "Missing claim: " ++ name
  | expired => "Token has expired"
  | invalidSignature => "Signature mismatch"
  | wrongType => "Not an access token"
  | unknownApp => "Token names an unknown or disabled app"
  | lookup cause => "Secret lookup failed: " ++ cause.message

/-- Whom a token is minted for. -/
structure Subject where
  userId : UserId
  email : String
  appId : AppId
  isAdmin : Bool
  deriving DecidableEq, Repr

/-- What comes before and after the last mark of a text. -/
def splitAtLast (mark : Char) : List Char -> Option (List Char × List Char)
  | [] => none
  | char :: rest =>
    match splitAtLast mark rest with
    | some (before, after) => some (char :: before, after)
    | none => if char = mark then some ([], rest) else none

/-- The three parts of a token, still in base64. -/
structure Parts where
  header : List Char
  payload : List Char
  signature : List Char
  deriving DecidableEq, Repr

/-- A token is taken apart at its last two dots. -/
def Parts.ofToken? (token : String) : Option Parts := do
  let (message, signature) ← splitAtLast '.' token.toList
  let (header, payload) ← splitAtLast '.' message
  return ⟨header, payload, signature⟩

/-- The text that is signed. -/
def Parts.message (parts : Parts) : String :=
  String.ofList (parts.header ++ '.' :: parts.payload)

/-- The base64 text of a signature. -/
def signatureText (primitives : Primitives) (secret message : String) : List Char :=
  Base64.encode Base64.urlSafe (primitives.mac (Bytes.ofString secret) (Bytes.ofString message))

/-- The token that carries these claims under a secret. -/
def tokenOf (primitives : Primitives) (secret : String) (claims : AccessClaims) : String :=
  let message := String.ofList (Base64.encode Base64.urlSafe headerBytes ++
    '.' :: Base64.encode Base64.urlSafe (payloadBytes claims))
  message ++ "." ++ String.ofList (signatureText primitives secret message)

/-- The expiry of a token issued now: whole seconds, as long as both the
lifetime and the sum are 64-bit integers. -/
def expiry? (lifetime : Nat) (now : Instant) : Option Int :=
  let expiresAt := now.unixSeconds + lifetime
  if (lifetime : Int) ≤ Decimal.int64Max ∧ Decimal.FitsInt64 expiresAt then some expiresAt else none

/-- Signs a token that expires so many seconds from now. -/
def issue (primitives : Primitives) (subject : Subject) (secret : String) (lifetime : Nat)
    (now : Instant) : Except Error (String × AccessClaims) :=
  match expiry? lifetime now with
  | none => .error .internal
  | some expiresAt =>
    let claims : AccessClaims :=
      ⟨subject.userId, subject.email, subject.appId, subject.isAdmin, expiresAt⟩
    .ok (tokenOf primitives secret claims, claims)

/-- The app whose secret a token asks to be checked with. -/
def claimedApp (token : String) : Except Rejection AppId := do
  let some parts := Parts.ofToken? token | throw .malformed
  let some header := Base64.decode? Base64.urlSafe parts.header | throw .malformed
  let some algorithm := algorithmOf? header | throw .malformed
  if algorithm ≠ signingAlgorithm then throw .unsupportedAlgorithm
  let some payload := Base64.decode? Base64.urlSafe parts.payload | throw .malformed
  match unverifiedAppId? payload with
  | .error _ => throw .malformed
  | .ok none => throw (.missingClaim "app_id")
  | .ok (some appId) => return appId

/-- The claims of a token whose signature is good under the secret. -/
def signedPayload (primitives : Primitives) (token secret : String) (now : Instant) :
    Except Rejection SignedClaims := do
  let some parts := Parts.ofToken? token | throw .malformed
  let some signature := Base64.decode? Base64.urlSafe parts.signature | throw .malformed
  if signature ≠ primitives.mac (Bytes.ofString secret) (Bytes.ofString parts.message) then
    throw .invalidSignature
  let some payload := Base64.decode? Base64.urlSafe parts.payload | throw .malformed
  let document := parse payload
  let .ok claims := signedClaims? document | throw .malformed
  let .ok _ := document.read registeredShape.check | throw .malformed
  if claims.expiresAt < 0 then throw (.missingClaim "exp")
  if claims.expiresAt < now.unixSeconds then throw .expired
  let .ok _ := checkRegistered document | throw .malformed
  return claims

/-- Checks a token for the app that it claims, under that app's secret. -/
def verifyFor (primitives : Primitives) (token : String) (appId : AppId) (secret : String)
    (now : Instant) : Except Rejection AccessClaims := do
  let claims ← signedPayload primitives token secret now
  let some userId := claims.userId | throw (.missingClaim "uid")
  let some verifiedAppId := claims.appId | throw (.missingClaim "app_id")
  if verifiedAppId ≠ appId then throw .invalidSignature
  if claims.tokenType ≠ some accessTokenType then throw .wrongType
  return ⟨userId, claims.email, appId, claims.isAdmin, claims.expiresAt⟩

end SingleSignOn.AccessToken

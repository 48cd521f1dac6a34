import SingleSignOn.AccessToken.Signer
import SingleSignOn.Service.Basic
import SingleSignOn.Text.Blank

namespace SingleSignOn.Service

/-!
# Sessions

Login, refresh and logout, and the checking of access tokens.

Login replaces the refresh token that a user holds for an app.  Refresh
exchanges a refresh token for a new pair: it stores the new token first and
then deletes the old one, and whoever finds the old one already gone takes
the new one back.  So a token is good for one refresh, and a failure half
way leaves the caller with a token that works.

Every rejection is the same `invalidCredentials`, whatever its reason.
-/

open AccessToken (Rejection Subject)

/-- An app that may be used: a disabled one counts as absent. -/
def activeApp (service : Service) (appId : AppId) : Operation (Option App) := do
  let found ← service.credentials (.findAppById appId)
  return found.filter fun app => app.enabled

/-- A new token pair for a user and an app, with the record of its refresh
token.  Nothing is stored yet.  Fails if one of the expiries cannot be
represented. -/
def issueSession (service : Service) (user : User) (app : App) (isAdmin : Bool) :
    Operation (Session × NewRefreshToken) := do
  let now ← Operation.ofProgram Program.now
  let (accessToken, claims) ← ExceptT.mk (pure (AccessToken.issue service.primitives
    ⟨user.id, user.email, app.id, isAdmin⟩ app.secret service.auth.accessTokenLifetime now))
  let expiresAt ← Operation.orFail .internal
    (service.auth.refreshTokenLifetime?.bind now.addSeconds?)
  let refreshToken ← Operation.ofProgram randomText
  return (⟨accessToken, refreshToken, claims.expiresAt⟩,
    ⟨service.tokenDigest refreshToken, user.id, app.id, expiresAt⟩)

/-- Opens a session for an app with email and password.  An earlier refresh
token of the user for the app is revoked. -/
def login (service : Service) (email password : String) (appId : AppId) : Operation Session := do
  let some user ← service.credentials (.findUserByEmail email) | throw .invalidCredentials
  if !Password.verify service.primitives password user.passwordHash then throw .invalidCredentials
  let some app ← service.activeApp appId | throw .invalidCredentials
  let isAdmin ← service.credentials (.isAdmin user.id app.id)
  let (session, record) ← service.issueSession user app isAdmin
  let _ ← service.tokens (.deleteByOwner user.id app.id)
  service.tokens (.create record)
  return session

/-- Exchanges a refresh token for a new pair. -/
def refresh (service : Service) (token : String) : Operation Session := do
  let digest := service.tokenDigest token
  let some stored ← service.tokens (.find digest) | throw .invalidCredentials
  let now ← Operation.ofProgram Program.now
  if stored.isExpiredAt now then
    let _ ← service.attempt (.tokens (.deleteByToken digest))
    throw .invalidCredentials
  let some user ← service.credentials (.findUserById stored.userId) | throw .invalidCredentials
  let some app ← service.activeApp stored.appId | throw .invalidCredentials
  let isAdmin ← service.credentials (.isAdmin user.id app.id)
  let (session, record) ← service.issueSession user app isAdmin
  service.tokens (.create record)
  match ← service.attempt (.tokens (.deleteByToken digest)) with
  | .ok 0 =>
    let _ ← service.attempt (.tokens (.deleteByToken record.digest))
    throw .invalidCredentials
  | _ => return session

/-- Revokes a refresh token, and tells whether there was one to revoke. -/
def logout (service : Service) (token : String) : Operation Bool := do
  let deleted ← service.tokens (.deleteByToken (service.tokenDigest token))
  return 0 < deleted

/-- Checks an access token under the secret of the app that it names, with
a look-up of that secret given as a program. -/
def verifyToken (service : Service) (token : String)
    (lookup : AppId -> Program (Except Error (Option String))) : Program (Except Rejection AccessClaims) :=
  match AccessToken.claimedApp token with
  | .error rejection => return .error rejection
  | .ok appId => do
    match ← lookup appId with
    | .error cause => return .error (.lookup cause)
    | .ok none => return .error .unknownApp
    | .ok (some secret) =>
      let now ← Program.now
      return AccessToken.verifyFor service.primitives token appId secret now

/-- The claims of an access token that is good now.  At the very second of
its expiry a token is no longer good. -/
def verifyAccess (service : Service) (token : String) : Program (Except Rejection AccessClaims) := do
  let outcome ← service.verifyToken token fun appId => do
    let app ← (service.activeApp appId).run
    return app.map fun found => found.map App.secret
  let now ← Program.now
  return outcome.bind fun claims =>
    if claims.expiresAt ≤ now.unixSeconds then .error .expired else .ok claims

/-- Checks an access token.  A token that is not good has no claims; only a
failing look-up is a failure. -/
def validateToken (service : Service) (token : String) : Operation (Option AccessClaims) := do
  match ← Operation.ofProgram (service.verifyAccess token) with
  | .ok claims => return some claims
  | .error (.lookup cause) => throw cause
  | .error _ => return none

/-- The claims of the caller behind an access token. -/
def authenticate (service : Service) (token : String) : Operation AccessClaims := do
  match ← Operation.ofProgram (service.verifyAccess token) with
  | .ok claims => return claims
  | .error (.lookup cause) => throw cause
  | .error _ => throw .invalidCredentials

/-- Registers a user and returns the id. -/
def register (service : Service) (email password : String) (profile : Profile) : Operation UserId := do
  if Text.isBlank email then throw (.badRequest "Email is required")
  if password.isEmpty then throw (.badRequest "Password is required")
  let passwordHash ← Operation.ofProgram (service.hashPassword password)
  let user ← service.credentials (.createUser ⟨email, passwordHash, profile⟩)
  return user.id

/-- Whether a user is an admin of an app. -/
def isAdmin (service : Service) (userId : UserId) (appId : AppId) : Operation Bool :=
  service.credentials (.isAdmin userId appId)

end SingleSignOn.Service

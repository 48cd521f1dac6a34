import SingleSignOn.Api.Answer
import SingleSignOn.Api.Records
import SingleSignOn.Http.Routing
import SingleSignOn.Service.Accounts
import SingleSignOn.Service.Sessions

namespace SingleSignOn.Api

/-!
# The public interface

What apps and their users call.  Endpoints under `users/me` act for the
bearer of an access token, which is looked at before anything else in the
request; an account is named by the token alone.
-/

open Http

/-- The operations of the public interface. -/
inductive PublicEndpoint where
  | register
  | ownAccount
  | changeOwnAccount
  | deleteOwnAccount
  | login
  | logout
  | refresh
  | validateToken
  | adminStatus
  deriving DecidableEq, Repr

/-- The paths of the public interface. -/
def publicRoutes : List (Route PublicEndpoint) :=
  [⟨[.literal "v1", .literal "users"], [("POST", .register)]⟩,
   ⟨[.literal "v1", .literal "users", .literal "me"],
     [("GET", .ownAccount), ("PATCH", .changeOwnAccount), ("DELETE", .deleteOwnAccount)]⟩,
   ⟨[.literal "v1", .literal "sessions"], [("POST", .login), ("DELETE", .logout)]⟩,
   ⟨[.literal "v1", .literal "sessions", .literal "refresh"], [("POST", .refresh)]⟩,
   ⟨[.literal "v1", .literal "tokens", .literal "validate"], [("POST", .validateToken)]⟩,
   ⟨[.literal "v1", .literal "apps", .parameter, .literal "admins", .parameter], [("GET", .adminStatus)]⟩]

/-- The token of a bearer header: printable ASCII after the word and one blank. -/
def bearerToken? (value : Bytes) : Option String :=
  let printable := value.all fun byte => (32 ≤ byte.toNat && byte.toNat < 127) || byte == 9
  let scheme := Bytes.ofString "Bearer "
  if printable && value.take scheme.length == scheme then Bytes.toString? (value.drop scheme.length) else none

/-- The claims of the caller. -/
def caller (service : Service) (request : Request) : Handling AccessClaims := do
  match (request.header? "authorization").bind bearerToken? with
  | some token => (service.authenticate token).handled
  | none => Handling.reject Error.invalidCredentials.response

/-- What a login must not leave out. -/
def missingFromLogin? (login : Login) : Option String :=
  if Text.isBlank login.email then some "email is required"
  else if login.password.isEmpty then some "password is required"
  else if login.appId = 0 then some "appId is required"
  else none

/-- Runs an endpoint of the public interface. -/
def PublicEndpoint.handle (service : Service) (endpoint : PublicEndpoint)
    (parameters : List (List Char)) (request : Request) : Handling Response := do
  match endpoint with
  | .register =>
    let registration ← Handling.jsonBody request Registration.read
    let userId ← (service.register registration.email registration.password registration.profile).handled
    return .ofJson 201 (.record [("userId", .integer userId)])
  | .ownAccount =>
    let claims ← caller service request
    let user ← (service.userInfo claims.userId).handled
    return .ofJson 200 (userView user)
  | .changeOwnAccount =>
    let claims ← caller service request
    let change ← Handling.jsonBody request readProfileChange
    let user ← (service.updateUser claims.userId change).handled
    return .ofJson 200 (userView user)
  | .deleteOwnAccount =>
    let claims ← caller service request
    (service.deleteUser claims.userId).handled
    return .ofStatus 204
  | .login =>
    let login ← Handling.jsonBody request Login.read
    if let some message := missingFromLogin? login then
      Handling.reject (Error.badRequest message).response
    let session ← (service.login login.email login.password login.appId).handled
    return .ofJson 200 (sessionView session)
  | .logout =>
    let token ← Handling.jsonBody request (readText "refreshToken")
    let _ ← (service.logout token).handled
    return .ofStatus 204
  | .refresh =>
    let token ← Handling.jsonBody request (readText "refreshToken")
    let session ← (service.refresh token).handled
    return .ofJson 200 (sessionView session)
  | .validateToken =>
    let token ← Handling.jsonBody request (readText "accessToken")
    let claims ← (service.validateToken token).handled
    return .ofJson 200 (tokenStatusView claims)
  | .adminStatus =>
    let appId ← Handling.number parameters 0
    let userId ← Handling.number parameters 1
    let isAdmin ← (service.isAdmin userId appId).handled
    return .ofJson 200 (.record [("isAdmin", .boolean isAdmin)])

/-- Answers a request to the public interface. -/
def answerPublic (service : Service) (request : Request) : Program Response :=
  Http.answer publicRoutes
    (fun endpoint parameters request => (endpoint.handle service parameters request).finish) request

end SingleSignOn.Api

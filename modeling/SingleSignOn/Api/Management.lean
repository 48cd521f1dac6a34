import SingleSignOn.Api.Answer
import SingleSignOn.Api.Records
import SingleSignOn.Http.Routing
import SingleSignOn.Service.Accounts
import SingleSignOn.Service.Apps
import SingleSignOn.Service.Health

namespace SingleSignOn.Api

/-!
# The management interface

What operators call: probes, and the administration of apps and users.  It
asks nobody who they are, and is served apart from the public interface for
that reason.
-/

open Http

/-- The operations of the management interface. -/
inductive ManagementEndpoint where
  | alive
  | ready
  | listApps
  | createApp
  | getApp
  | updateApp
  | deleteApp
  | setStatus
  | listAppUsers
  | grantAdmin
  | revokeAdmin
  | listUsers
  deriving DecidableEq, Repr

/-- The paths of the management interface. -/
def managementRoutes : List (Route ManagementEndpoint) :=
  [⟨[.literal "livez"], [("GET", .alive)]⟩,
   ⟨[.literal "readyz"], [("GET", .ready)]⟩,
   ⟨[.literal "apps"], [("GET", .listApps), ("POST", .createApp)]⟩,
   ⟨[.literal "apps", .parameter], [("GET", .getApp), ("PATCH", .updateApp), ("DELETE", .deleteApp)]⟩,
   ⟨[.literal "apps", .parameter, .literal "status"], [("PUT", .setStatus)]⟩,
   ⟨[.literal "apps", .parameter, .literal "users"], [("GET", .listAppUsers)]⟩,
   ⟨[.literal "apps", .parameter, .literal "admins", .parameter],
     [("PUT", .grantAdmin), ("DELETE", .revokeAdmin)]⟩,
   ⟨[.literal "users"], [("GET", .listUsers)]⟩]

/-- The answer to a readiness probe. -/
def readiness : Option Service.Illness -> Response
  | none => .ofJson 200 (.record [("status", .text "ok"), ("store", .text "ok")])
  | some _ => .ofJson 503 (.record [("status", .text "error"), ("store", .text "error")])

/-- Runs an endpoint of the management interface. -/
def ManagementEndpoint.handle (service : Service) (endpoint : ManagementEndpoint)
    (parameters : List (List Char)) (request : Request) : Handling Response := do
  match endpoint with
  | .alive => return .ofStatus 200
  | .ready =>
    let illness ← ExceptT.lift service.checkStore
    return readiness illness
  | .listApps =>
    let apps ← service.listApps.handled
    return .ofJson 200 (.list (apps.map appView))
  | .createApp =>
    let registration ← Handling.jsonBody request AppRegistration.read
    let app ← (service.createApp registration.name registration.link registration.secret).handled
    return .ofJson 201 (createdAppView app)
  | .getApp =>
    let appId ← Handling.number parameters 0
    let app ← (service.getApp appId).handled
    return .ofJson 200 (appView app)
  | .updateApp =>
    let appId ← Handling.number parameters 0
    let update ← Handling.jsonBody request readAppUpdate
    let app ← (service.updateApp appId update.name update.link).handled
    return .ofJson 200 (appView app)
  | .deleteApp =>
    let appId ← Handling.number parameters 0
    (service.deleteApp appId).handled
    return .ofStatus 204
  | .setStatus =>
    let appId ← Handling.number parameters 0
    let enabled ← Handling.jsonBody request readStatus
    (service.setEnabled appId enabled).handled
    return .ofStatus 204
  | .listAppUsers =>
    let appId ← Handling.number parameters 0
    let members ← (service.listAppUsers appId).handled
    return .ofJson 200 (.list (members.map appUserView))
  | .grantAdmin =>
    let appId ← Handling.number parameters 0
    let userId ← Handling.number parameters 1
    (service.grantAdmin userId appId).handled
    return .ofStatus 204
  | .revokeAdmin =>
    let appId ← Handling.number parameters 0
    let userId ← Handling.number parameters 1
    let _ ← (service.revokeAdmin userId appId).handled
    return .ofStatus 204
  | .listUsers =>
    let users ← service.listUsers.handled
    return .ofJson 200 (.list (users.map userView))

/-- Answers a request to the management interface. -/
def answerManagement (service : Service) (request : Request) : Program Response :=
  Http.answer managementRoutes
    (fun endpoint parameters request => (endpoint.handle service parameters request).finish) request

end SingleSignOn.Api

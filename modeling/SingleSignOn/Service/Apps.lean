import SingleSignOn.Service.Basic
import SingleSignOn.Text.Blank

namespace SingleSignOn.Service

/-!
# Apps and their admins

The registration and administration of apps.  Access tokens of a deleted app
stop being good because there is no secret left to check them with.
-/

/-- Registers an app, under a random secret if none is given. -/
def createApp (service : Service) (name link : String) (secret : Option String) : Operation App := do
  if Text.isBlank name then throw (.badRequest "App name is required")
  let secret ← match secret with
    | some given => if given.isEmpty then throw (.badRequest "App secret must not be empty") else pure given
    | none => Operation.ofProgram randomText
  service.credentials (.createApp ⟨name, secret, link⟩)

/-- The record of an app. -/
def getApp (service : Service) (appId : AppId) : Operation App := do
  let found ← service.credentials (.findAppById appId)
  Operation.orFail .appNotFound found

/-- Every app, by increasing id. -/
def listApps (service : Service) : Operation (List App) :=
  service.credentials .listApps

/-- Renames or relinks an app. -/
def updateApp (service : Service) (appId : AppId) (name link : Option String) : Operation App := do
  if name.any Text.isBlank then throw (.badRequest "App name must not be empty")
  let update : AppUpdate := ⟨name, link⟩
  if update.isEmpty then service.getApp appId
  else do
    let found ← service.credentials (.updateApp appId update)
    Operation.orFail .appNotFound found

/-- Deletes an app, its refresh tokens first. -/
def deleteApp (service : Service) (appId : AppId) : Operation Unit := do
  let _ ← service.tokens (.deleteByApp appId)
  let found ← service.credentials (.deleteApp appId)
  if !found then throw .appNotFound

/-- The users with a grant record for an app, by increasing id. -/
def listAppUsers (service : Service) (appId : AppId) : Operation (List AppUser) := do
  let _ ← service.getApp appId
  service.credentials (.listUsersForApp appId)

/-- Enables or disables an app. -/
def setEnabled (service : Service) (appId : AppId) (enabled : Bool) : Operation Unit := do
  let found ← service.credentials (.setAppEnabled appId enabled)
  if !found then throw .appNotFound

/-- Makes a user an admin of an app.  Both have to exist. -/
def grantAdmin (service : Service) (userId : UserId) (appId : AppId) : Operation Unit := do
  let found ← service.credentials (.findUserById userId)
  let _ ← Operation.orFail .userNotFound found
  let _ ← service.getApp appId
  service.credentials (.setAdmin userId appId true)

/-- Takes a grant back, and tells whether there was one. -/
def revokeAdmin (service : Service) (userId : UserId) (appId : AppId) : Operation Bool :=
  service.credentials (.removeAdmin userId appId)

end SingleSignOn.Service

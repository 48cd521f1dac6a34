import SingleSignOn.Store.Credentials

namespace SingleSignOn

/-!
# Users, apps and grants as plain tables

The store of users, apps and grants without any index: three lists of rows
and two counts.  Every question is answered by looking through a list, so
what a call means can be read off its definition.  The store proper has to
give the same answers.
-/

/-- The rows of the store, users and apps in the order of their creation. -/
structure Tables where
  users : List User
  apps : List App
  grants : List (Grant × Bool)
  /-- How many users were ever created. -/
  userCount : Nat
  /-- How many apps were ever created. -/
  appCount : Nat
  deriving DecidableEq, Repr

namespace Tables

/-- The tables without any row. -/
def empty : Tables := ⟨[], [], [], 0, 0⟩

/-- The user of an id. -/
def user? (tables : Tables) (id : UserId) : Option User :=
  tables.users.find? fun user => user.id = id

/-- The app of an id. -/
def app? (tables : Tables) (id : AppId) : Option App :=
  tables.apps.find? fun app => app.id = id

/-- Adds a user, unless some user has the email. -/
def createUser (tables : Tables) (now : Instant) (user : NewUser) : Except Error User × Tables :=
  if tables.users.any fun other => other.email = user.email then (.error .userExists, tables)
  else
    let row : User := ⟨tables.userCount + 1, user.email, user.passwordHash, user.profile, now⟩
    (.ok row, { tables with users := tables.users ++ [row], userCount := tables.userCount + 1 })

/-- Changes the given fields of a user, unless another user has the new email.  A field that
is not given stays, as do the id and the instant of the creation. -/
def updateUser (tables : Tables) (id : UserId) (update : UserUpdate) : Except Error (Option User) × Tables :=
  match tables.user? id with
  | none => (.ok none, tables)
  | some user =>
    let row : User :=
      { id := user.id
        email := update.email.getD user.email
        passwordHash := update.passwordHash.getD user.passwordHash
        profile := update.profile.getD user.profile
        createdAt := user.createdAt }
    if tables.users.any fun other => other.id ≠ id ∧ update.email = some other.email then (.error .userExists, tables)
    else (.ok (some row),
      { tables with users := tables.users.map fun other => if other.id = id then row else other })

/-- Removes a user and their grants. -/
def deleteUser (tables : Tables) (id : UserId) : Bool × Tables :=
  if (tables.user? id).isSome then
    (true, { tables with
      users := tables.users.filter fun user => user.id ≠ id
      grants := tables.grants.filter fun row => row.1.userId ≠ id })
  else (false, tables)

/-- The answer if the name of an app is taken. -/
def nameTaken : Error := .conflict "App name already exists"

/-- Adds an app, unless some app has the name. -/
def createApp (tables : Tables) (now : Instant) (app : NewApp) : Except Error App × Tables :=
  if tables.apps.any fun other => other.name = app.name then (.error nameTaken, tables)
  else
    let row : App := ⟨tables.appCount + 1, app.name, app.secret, app.link, true, now⟩
    (.ok row, { tables with apps := tables.apps ++ [row], appCount := tables.appCount + 1 })

/-- Changes the given fields of an app, unless another app has the new name.  A field that is
not given stays, as do the id, the secret, the status and the instant of the creation. -/
def updateApp (tables : Tables) (id : AppId) (update : AppUpdate) : Except Error (Option App) × Tables :=
  match tables.app? id with
  | none => (.ok none, tables)
  | some app =>
    let row : App :=
      { id := app.id
        name := update.name.getD app.name
        secret := app.secret
        link := update.link.getD app.link
        enabled := app.enabled
        createdAt := app.createdAt }
    if tables.apps.any fun other => other.id ≠ id ∧ update.name = some other.name then
      (.error nameTaken, tables)
    else (.ok (some row),
      { tables with apps := tables.apps.map fun other => if other.id = id then row else other })

/-- Removes an app and its grants. -/
def deleteApp (tables : Tables) (id : AppId) : Bool × Tables :=
  if (tables.app? id).isSome then
    (true, { tables with
      apps := tables.apps.filter fun app => app.id ≠ id
      grants := tables.grants.filter fun row => row.1.appId ≠ id })
  else (false, tables)

/-- Sets the status of an app and nothing else. -/
def setAppEnabled (tables : Tables) (id : AppId) (enabled : Bool) : Bool × Tables :=
  ((tables.app? id).isSome,
    { tables with apps := tables.apps.map fun app => if app.id = id then { app with enabled := enabled } else app })

/-- Sets a grant. -/
def setAdmin (tables : Tables) (grant : Grant) (isAdmin : Bool) : Tables :=
  { tables with grants := (grant, isAdmin) :: tables.grants.filter fun row => row.1 ≠ grant }

/-- Removes a grant. -/
def removeAdmin (tables : Tables) (grant : Grant) : Bool × Tables :=
  ((tables.grants.lookup grant).isSome,
    { tables with grants := tables.grants.filter fun row => row.1 ≠ grant })

/-- The users joined with their grants for an app. -/
def listUsersForApp (tables : Tables) (appId : AppId) : List AppUser :=
  tables.users.filterMap fun user =>
    (tables.grants.lookup ⟨user.id, appId⟩).map fun isAdmin => ⟨user, isAdmin⟩

/-- Answers a call. -/
def answer (tables : Tables) (now : Instant) :
    (call : CredentialCall) -> Except Error call.Reply × Tables
  | .findUserByEmail email => (.ok (tables.users.find? fun user => user.email = email), tables)
  | .findUserById id => (.ok (tables.user? id), tables)
  | .listUsers => (.ok tables.users, tables)
  | .createUser user => tables.createUser now user
  | .updateUser id update => tables.updateUser id update
  | .deleteUser id => let (found, after) := tables.deleteUser id; (.ok found, after)
  | .findAppById id => (.ok (tables.app? id), tables)
  | .listApps => (.ok tables.apps, tables)
  | .createApp app => tables.createApp now app
  | .updateApp id update => tables.updateApp id update
  | .deleteApp id => let (found, after) := tables.deleteApp id; (.ok found, after)
  | .setAppEnabled id enabled => let (found, after) := tables.setAppEnabled id enabled; (.ok found, after)
  | .isAdmin userId appId => (.ok ((tables.grants.lookup ⟨userId, appId⟩).getD false), tables)
  | .setAdmin userId appId isAdmin => (.ok (), tables.setAdmin ⟨userId, appId⟩ isAdmin)
  | .removeAdmin userId appId => let (found, after) := tables.removeAdmin ⟨userId, appId⟩; (.ok found, after)
  | .listUsersForApp appId => (.ok (tables.listUsersForApp appId), tables)
  | .ping => (.ok (), tables)

end Tables

end SingleSignOn

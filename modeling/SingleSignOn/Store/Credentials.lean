import Std.Data.ExtTreeMap
import SingleSignOn.Store.Call

namespace SingleSignOn

/-!
# Users, apps and grants in memory

Users and apps are kept by id.  Emails and names are indexed, so that a
look-up by email takes one step and two users never share one; the index has
to follow every change by hand.  Ids count creations and are not given out
again after a deletion.
-/

/-- A map from keys to values whose equality is that of its entries. -/
abbrev Table (Key Value : Type) [Ord Key] := Std.ExtTreeMap Key Value

/-- The two sides of a grant. -/
structure Grant where
  userId : UserId
  appId : AppId
  deriving DecidableEq, Repr

namespace Grant

/-- Grants are ordered by user, and by app for the same user. -/
instance : Ord Grant where
  compare first second := (compare first.userId second.userId).then (compare first.appId second.appId)

instance : Std.TransOrd Grant :=
  inferInstanceAs (Std.TransCmp (compareLex (compareOn Grant.userId) (compareOn Grant.appId)))

instance : Std.LawfulEqOrd Grant where
  eq_of_compare := by
    intro first second same
    have both : (compare first.userId second.userId).then (compare first.appId second.appId) = .eq := same
    rw [Ordering.then_eq_eq] at both
    obtain ⟨users, apps⟩ := both
    cases first
    cases second
    simp_all

end Grant

/-- The store of users, apps and grants. -/
structure CredentialStore where
  users : Table UserId User
  emails : Table String UserId
  apps : Table AppId App
  appNames : Table String AppId
  grants : Table Grant Bool
  /-- How many users were ever created. -/
  userCount : Nat
  /-- How many apps were ever created. -/
  appCount : Nat

namespace CredentialStore

/-- The store without any record. -/
def empty : CredentialStore :=
  ⟨∅, ∅, ∅, ∅, ∅, 0, 0⟩

/-- The user who holds an email. -/
def findUserByEmail (store : CredentialStore) (email : String) : Option User :=
  (store.emails[email]?).bind fun id => store.users[id]?

/-- Every user, by increasing id. -/
def listUsers (store : CredentialStore) : List User :=
  store.users.toList.map (·.2)

/-- Every app, by increasing id. -/
def listApps (store : CredentialStore) : List App :=
  store.apps.toList.map (·.2)

/-- Registers a user under the next id. -/
def createUser (store : CredentialStore) (now : Instant) (user : NewUser) :
    Except Error User × CredentialStore :=
  if store.emails.contains user.email then (.error .userExists, store)
  else
    let id : UserId := store.userCount + 1
    let record : User := ⟨id, user.email, user.passwordHash, user.profile, now⟩
    (.ok record, { store with
      users := store.users.insert id record
      emails := store.emails.insert user.email id
      userCount := store.userCount + 1 })

/-- Updates a user.  Only a really new email has to be free. -/
def updateUser (store : CredentialStore) (id : UserId) (update : UserUpdate) :
    Except Error (Option User) × CredentialStore :=
  match store.users[id]? with
  | none => (.ok none, store)
  | some current =>
    let updated := update.applyTo current
    if updated.email = current.email then
      (.ok (some updated), { store with users := store.users.insert id updated })
    else if store.emails.contains updated.email then (.error .userExists, store)
    else (.ok (some updated), { store with
      users := store.users.insert id updated
      emails := (store.emails.insert updated.email id).erase current.email })

/-- Deletes a user with all their grants and frees the email. -/
def deleteUser (store : CredentialStore) (id : UserId) : Bool × CredentialStore :=
  match store.users[id]? with
  | none => (false, store)
  | some user => (true, { store with
      users := store.users.erase id
      emails := store.emails.erase user.email
      grants := store.grants.filter fun grant _ => grant.userId != id })

/-- The failure of a taken app name. -/
def appNameTaken : Error := .conflict "App name already exists"

/-- Registers an app under the next id.  It starts enabled. -/
def createApp (store : CredentialStore) (now : Instant) (app : NewApp) :
    Except Error App × CredentialStore :=
  if store.appNames.contains app.name then (.error appNameTaken, store)
  else
    let id : AppId := store.appCount + 1
    let record : App := ⟨id, app.name, app.secret, app.link, true, now⟩
    (.ok record, { store with
      apps := store.apps.insert id record
      appNames := store.appNames.insert app.name id
      appCount := store.appCount + 1 })

/-- Updates an app.  Only a really new name has to be free. -/
def updateApp (store : CredentialStore) (id : AppId) (update : AppUpdate) :
    Except Error (Option App) × CredentialStore :=
  match store.apps[id]? with
  | none => (.ok none, store)
  | some current =>
    let updated := update.applyTo current
    if updated.name = current.name then
      (.ok (some updated), { store with apps := store.apps.insert id updated })
    else if store.appNames.contains updated.name then (.error appNameTaken, store)
    else (.ok (some updated), { store with
      apps := store.apps.insert id updated
      appNames := (store.appNames.insert updated.name id).erase current.name })

/-- Deletes an app with all its grants and frees the name. -/
def deleteApp (store : CredentialStore) (id : AppId) : Bool × CredentialStore :=
  match store.apps[id]? with
  | none => (false, store)
  | some app => (true, { store with
      apps := store.apps.erase id
      appNames := store.appNames.erase app.name
      grants := store.grants.filter fun grant _ => grant.appId != id })

/-- Enables or disables an app. -/
def setAppEnabled (store : CredentialStore) (id : AppId) (enabled : Bool) : Bool × CredentialStore :=
  match store.apps[id]? with
  | none => (false, store)
  | some app => (true, { store with apps := store.apps.insert id { app with enabled := enabled } })

/-- Whether a grant is recorded and in force. -/
def isAdmin (store : CredentialStore) (userId : UserId) (appId : AppId) : Bool :=
  (store.grants[(⟨userId, appId⟩ : Grant)]?).getD false

/-- Records a grant. -/
def setAdmin (store : CredentialStore) (userId : UserId) (appId : AppId) (isAdmin : Bool) :
    CredentialStore :=
  { store with grants := store.grants.insert ⟨userId, appId⟩ isAdmin }

/-- Removes a grant record. -/
def removeAdmin (store : CredentialStore) (userId : UserId) (appId : AppId) : Bool × CredentialStore :=
  let grant : Grant := ⟨userId, appId⟩
  (store.grants.contains grant, { store with grants := store.grants.erase grant })

/-- The users with a grant record for an app, by increasing id. -/
def listUsersForApp (store : CredentialStore) (appId : AppId) : List AppUser :=
  store.grants.toList.filterMap fun (grant, isAdmin) =>
    if grant.appId = appId then (store.users[grant.userId]?).map fun user => ⟨user, isAdmin⟩ else none

/-- Answers a call. -/
def answer (store : CredentialStore) (now : Instant) :
    (call : CredentialCall) -> Except Error call.Reply × CredentialStore
  | .findUserByEmail email => (.ok (store.findUserByEmail email), store)
  | .findUserById id => (.ok store.users[id]?, store)
  | .listUsers => (.ok store.listUsers, store)
  | .createUser user => store.createUser now user
  | .updateUser id update => store.updateUser id update
  | .deleteUser id => let (found, after) := store.deleteUser id; (.ok found, after)
  | .findAppById id => (.ok store.apps[id]?, store)
  | .listApps => (.ok store.listApps, store)
  | .createApp app => store.createApp now app
  | .updateApp id update => store.updateApp id update
  | .deleteApp id => let (found, after) := store.deleteApp id; (.ok found, after)
  | .setAppEnabled id enabled => let (found, after) := store.setAppEnabled id enabled; (.ok found, after)
  | .isAdmin userId appId => (.ok (store.isAdmin userId appId), store)
  | .setAdmin userId appId isAdmin => (.ok (), store.setAdmin userId appId isAdmin)
  | .removeAdmin userId appId => let (found, after) := store.removeAdmin userId appId; (.ok found, after)
  | .listUsersForApp appId => (.ok (store.listUsersForApp appId), store)
  | .ping => (.ok (), store)

end CredentialStore

end SingleSignOn

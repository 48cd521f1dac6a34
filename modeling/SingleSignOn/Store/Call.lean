import SingleSignOn.Error
import SingleSignOn.Identity.Session

namespace SingleSignOn

/-!
# What the service asks of its stores

The service keeps its state in two stores: one for users, apps and grants,
one for refresh tokens.  A call is a value, so that a program can be looked
at call by call, and every backend answers the same type of calls.

A look-up reports absence as a result of its own, apart from a failing
backend.
-/

/-- A call to the store of users, apps and grants. -/
inductive CredentialCall where
  | findUserByEmail (email : String)
  | findUserById (id : UserId)
  /-- Every user, by increasing id. -/
  | listUsers
  /-- Fails if the email is taken. -/
  | createUser (user : NewUser)
  /-- Fails if the new email is taken by another user. -/
  | updateUser (id : UserId) (update : UserUpdate)
  /-- Tells whether there was such a user. -/
  | deleteUser (id : UserId)
  | findAppById (id : AppId)
  /-- Every app, disabled or not, by increasing id. -/
  | listApps
  /-- Fails if the name is taken. -/
  | createApp (app : NewApp)
  /-- Fails if the new name is taken by another app. -/
  | updateApp (id : AppId) (update : AppUpdate)
  /-- Tells whether there was such an app. -/
  | deleteApp (id : AppId)
  /-- Tells whether there is such an app. -/
  | setAppEnabled (id : AppId) (enabled : Bool)
  /-- A missing grant is no failure. -/
  | isAdmin (userId : UserId) (appId : AppId)
  | setAdmin (userId : UserId) (appId : AppId) (isAdmin : Bool)
  /-- Tells whether there was a grant. -/
  | removeAdmin (userId : UserId) (appId : AppId)
  /-- Users with a grant record for the app, by increasing id. -/
  | listUsersForApp (appId : AppId)
  | ping
  deriving DecidableEq, Repr

/-- A call to the store of refresh tokens.  Deletions report how many tokens
went away. -/
inductive TokenCall where
  /-- Fails if a token with this digest is stored. -/
  | create (token : NewRefreshToken)
  | find (digest : String)
  | deleteByToken (digest : String)
  | deleteByOwner (userId : UserId) (appId : AppId)
  | deleteByUser (userId : UserId)
  | deleteByApp (appId : AppId)
  /-- Deletes every token that is expired at an instant. -/
  | deleteExpired (before : Instant)
  deriving DecidableEq, Repr

/-- What a successful call to the store of users, apps and grants returns. -/
abbrev CredentialCall.Reply : CredentialCall -> Type
  | findUserByEmail _ => Option User
  | findUserById _ => Option User
  | listUsers => List User
  | createUser _ => User
  | updateUser _ _ => Option User
  | deleteUser _ => Bool
  | findAppById _ => Option App
  | listApps => List App
  | createApp _ => App
  | updateApp _ _ => Option App
  | deleteApp _ => Bool
  | setAppEnabled _ _ => Bool
  | isAdmin _ _ => Bool
  | setAdmin _ _ _ => Unit
  | removeAdmin _ _ => Bool
  | listUsersForApp _ => List AppUser
  | ping => Unit

/-- What a successful call to the store of refresh tokens returns. -/
abbrev TokenCall.Reply : TokenCall -> Type
  | create _ => Unit
  | find _ => Option RefreshToken
  | deleteByToken _ => Nat
  | deleteByOwner _ _ => Nat
  | deleteByUser _ => Nat
  | deleteByApp _ => Nat
  | deleteExpired _ => Nat

/-- A call to one of the two stores. -/
inductive StoreCall where
  | credentials (call : CredentialCall)
  | tokens (call : TokenCall)
  deriving DecidableEq, Repr

/-- What a successful call returns. -/
abbrev StoreCall.Reply : StoreCall -> Type
  | credentials call => call.Reply
  | tokens call => call.Reply

/-- The name of a call in traces. -/
def CredentialCall.name : CredentialCall -> String
  | findUserByEmail _ => "find_user_by_email"
  | findUserById _ => "find_user_by_id"
  | listUsers => "list_users"
  | createUser _ => "create_user"
  | updateUser _ _ => "update_user"
  | deleteUser _ => "delete_user"
  | findAppById _ => "find_app_by_id"
  | listApps => "list_apps"
  | createApp _ => "create_app"
  | updateApp _ _ => "update_app"
  | deleteApp _ => "delete_app"
  | setAppEnabled _ _ => "set_app_enabled"
  | isAdmin _ _ => "is_admin"
  | setAdmin _ _ _ => "set_admin"
  | removeAdmin _ _ => "remove_admin"
  | listUsersForApp _ => "list_users_for_app"
  | ping => "ping"

/-- The name of a call in traces. -/
def TokenCall.name : TokenCall -> String
  | create _ => "create"
  | find _ => "find"
  | deleteByToken _ => "delete_by_token"
  | deleteByOwner _ _ => "delete_by_owner"
  | deleteByUser _ => "delete_by_user"
  | deleteByApp _ => "delete_by_app"
  | deleteExpired _ => "delete_expired"

/-- The name of a call in traces. -/
def StoreCall.name : StoreCall -> String
  | credentials call => call.name
  | tokens call => call.name

end SingleSignOn

import SingleSignOn.Identity.Session
import SingleSignOn.Outline.Basic
import SingleSignOn.Time.Calendar

namespace SingleSignOn

/-!
# What is shown of domain values

Passwords, their hashes, secrets and tokens are never shown.  Where it
matters whether one is there, a mark stands in for it.
-/

/-- Stands in for something that is there and not shown. -/
def redacted : Outline := .text "<redacted>"

namespace Outline

/-- An instant as a date. -/
def instant (value : Instant) : Outline :=
  .atom (Calendar.longText value)

/-- What is shown of a profile. -/
def profile (value : Profile) : Outline :=
  .record "Profile" [("steam_url", .text value.steamUrl), ("photo_path", .text value.photoPath)] false

/-- What is shown of a user. -/
def user (value : User) : Outline :=
  .record "User" [("id", .integer value.id), ("email", .text value.email), ("profile", .profile value.profile),
    ("created_at", .instant value.createdAt)] true

/-- What is shown of a user of an app. -/
def appUser (value : AppUser) : Outline :=
  .record "AppUser" [("user", .user value.user), ("is_admin", .boolean value.isAdmin)] false

/-- What is shown of a user to be registered. -/
def newUser (value : NewUser) : Outline :=
  .record "NewUser" [("email", .text value.email), ("profile", .profile value.profile)] true

/-- What is shown of a partial update of a user. -/
def userUpdate (value : UserUpdate) : Outline :=
  .record "UserUpdate" [("email", .optional (value.email.map .text)),
    ("password_hash", .optional (value.passwordHash.map fun _ => redacted)),
    ("profile", .optional (value.profile.map .profile))] false

/-- What is shown of the changes that a user asks for. -/
def profileChange (value : ProfileChange) : Outline :=
  .record "ProfileChange" [("email", .optional (value.email.map .text)),
    ("password", .optional (value.password.map fun _ => redacted)),
    ("profile", .optional (value.profile.map .profile))] false

/-- What is shown of an app. -/
def app (value : App) : Outline :=
  .record "App" [("id", .integer value.id), ("name", .text value.name), ("link", .text value.link),
    ("enabled", .boolean value.enabled)] true

/-- What is shown of an app to be registered. -/
def newApp (value : NewApp) : Outline :=
  .record "NewApp" [("name", .text value.name), ("link", .text value.link)] true

/-- What is shown of a change to an app. -/
def appUpdate (value : AppUpdate) : Outline :=
  .record "AppUpdate" [("name", .optional (value.name.map .text)),
    ("link", .optional (value.link.map .text))] false

/-- What is shown of a session. -/
def session (value : Session) : Outline :=
  .record "AuthSession" [("expires_at", .integer value.expiresAt)] true

/-- What is shown of a refresh token to be stored; it holds a digest alone. -/
def newRefreshToken (value : NewRefreshToken) : Outline :=
  .record "NewRefreshToken" [("token_hash", .text value.digest), ("user_id", .integer value.userId),
    ("app_id", .integer value.appId), ("expires_at", .instant value.expiresAt)] false

/-- What is shown of the row of a user. -/
def userRow (value : User) : Outline :=
  .record "UserRecord" [("id", .integer value.id), ("email", .text value.email)] true

/-- What is shown of the row of an app. -/
def appRow (value : App) : Outline :=
  .record "AppRecord" [("id", .integer value.id), ("name", .text value.name)] true

end Outline

end SingleSignOn

import SingleSignOn.Identity.Session
import SingleSignOn.Json.Shape
import SingleSignOn.Json.Value

namespace SingleSignOn.Api

/-!
# Records of the HTTP interface

What requests carry, and how domain values are shown in responses.  Domain
values are cut down here: a password hash has no place in any record, and
the secret of an app only in the one that answers its creation.
-/

open Json

/-! ## Requests -/

/-- The written form of a profile. -/
def profileShape : Shape :=
  { fields := [.required "steamUrl" Parsed.asText, .required "photoPath" Parsed.asText] }

/-- Reads a profile. -/
def asProfile (record : Parsed) : Except Fault Profile := do
  profileShape.check record
  return ⟨← profileShape.read record "steamUrl" Parsed.asText,
    ← profileShape.read record "photoPath" Parsed.asText⟩

/-- A user who registers. -/
structure Registration where
  email : String
  password : String
  profile : Profile
  deriving DecidableEq, Repr

/-- The written form of a registration. -/
def Registration.shape : Shape :=
  { fields := [.required "email" Parsed.asText, .required "password" Parsed.asText,
      .defaulted "profile" asProfile] }

/-- Reads a registration. -/
def Registration.read (record : Parsed) : Except Fault Registration := do
  shape.check record
  return ⟨← shape.read record "email" Parsed.asText, ← shape.read record "password" Parsed.asText,
    ← shape.readOr record "profile" asProfile Profile.empty⟩

/-- A user who logs in to an app. -/
structure Login where
  email : String
  password : String
  appId : AppId
  deriving DecidableEq, Repr

/-- The written form of a login. -/
def Login.shape : Shape :=
  { fields := [.required "email" Parsed.asText, .required "password" Parsed.asText,
      .required "appId" Parsed.asInt64] }

/-- Reads a login. -/
def Login.read (record : Parsed) : Except Fault Login := do
  shape.check record
  return ⟨← shape.read record "email" Parsed.asText, ← shape.read record "password" Parsed.asText,
    ← shape.read record "appId" Parsed.asInt64⟩

/-- A record that consists of one text. -/
def textShape (name : String) : Shape :=
  { fields := [.required name Parsed.asText] }

/-- Reads a record that consists of one text. -/
def readText (name : String) (record : Parsed) : Except Fault String := do
  (textShape name).check record
  (textShape name).read record name Parsed.asText

/-- An app to be registered. -/
structure AppRegistration where
  name : String
  link : String
  secret : Option String
  deriving DecidableEq, Repr

/-- The written form of an app to be registered. -/
def AppRegistration.shape : Shape :=
  { fields := [.required "name" Parsed.asText, .defaulted "link" Parsed.asText,
      .nullable "secret" Parsed.asText] }

/-- Reads an app to be registered. -/
def AppRegistration.read (record : Parsed) : Except Fault AppRegistration := do
  shape.check record
  return ⟨← shape.read record "name" Parsed.asText, ← shape.readOr record "link" Parsed.asText "",
    ← shape.readOptional record "secret" Parsed.asText⟩

/-- The written form of a change to an app. -/
def appUpdateShape : Shape :=
  { fields := [.nullable "name" Parsed.asText, .nullable "link" Parsed.asText] }

/-- Reads a change to an app. -/
def readAppUpdate (record : Parsed) : Except Fault AppUpdate := do
  appUpdateShape.check record
  return ⟨← appUpdateShape.readOptional record "name" Parsed.asText,
    ← appUpdateShape.readOptional record "link" Parsed.asText⟩

/-- The written form of a new status of an app. -/
def statusShape : Shape :=
  { fields := [.required "enabled" Parsed.asBoolean] }

/-- Reads a new status of an app. -/
def readStatus (record : Parsed) : Except Fault Bool := do
  statusShape.check record
  statusShape.read record "enabled" Parsed.asBoolean

/-- The written form of the changes that a user asks for. -/
def profileChangeShape : Shape :=
  { fields := [.nullable "email" Parsed.asText, .nullable "password" Parsed.asText,
      .nullable "profile" asProfile] }

/-- Reads the changes that a user asks for. -/
def readProfileChange (record : Parsed) : Except Fault ProfileChange := do
  profileChangeShape.check record
  return ⟨← profileChangeShape.readOptional record "email" Parsed.asText,
    ← profileChangeShape.readOptional record "password" Parsed.asText,
    ← profileChangeShape.readOptional record "profile" asProfile⟩

/-! ## Responses -/

/-- A profile as it is shown. -/
def profileView (profile : Profile) : Value :=
  .record [("steamUrl", .text profile.steamUrl), ("photoPath", .text profile.photoPath)]

/-- A user as they are shown. -/
def userView (user : User) : Value :=
  .record [("id", .integer user.id), ("email", .text user.email), ("profile", profileView user.profile),
    ("createdAt", .integer user.createdAt.unixSeconds)]

/-- A user of an app as they are shown. -/
def appUserView (member : AppUser) : Value :=
  .record [("id", .integer member.user.id), ("email", .text member.user.email),
    ("profile", profileView member.user.profile), ("isAdmin", .boolean member.isAdmin)]

/-- An app as it is shown. -/
def appView (app : App) : Value :=
  .record [("id", .integer app.id), ("name", .text app.name), ("link", .text app.link),
    ("enabled", .boolean app.enabled), ("createdAt", .integer app.createdAt.unixSeconds)]

/-- An app as it is shown once, to whoever created it. -/
def createdAppView (app : App) : Value :=
  .record [("id", .integer app.id), ("name", .text app.name), ("link", .text app.link),
    ("secret", .text app.secret)]

/-- A session as it is handed out. -/
def sessionView (session : Session) : Value :=
  .record [("accessToken", .text session.accessToken), ("refreshToken", .text session.refreshToken),
    ("expiresAt", .integer session.expiresAt)]

/-- The claims of an access token as they are shown. -/
def claimsView (claims : AccessClaims) : Value :=
  .record [("uid", .integer claims.userId), ("email", .text claims.email), ("appId", .integer claims.appId),
    ("isAdmin", .boolean claims.isAdmin), ("exp", .integer claims.expiresAt), ("type", .text "access")]

/-- The outcome of checking an access token. -/
def tokenStatusView : Option AccessClaims -> Value
  | some claims => .record [("userId", .integer claims.userId), ("valid", .boolean true),
      ("claims", claimsView claims)]
  | none => .record [("userId", .null), ("valid", .boolean false), ("claims", .null)]

end SingleSignOn.Api

import SingleSignOn.Time.Instant

namespace SingleSignOn

/-!
# Apps

An app is a client of the service.  Its secret keys every access token that
is minted for it, and its name is shared with no other app.  A disabled app
is treated as if it were not there by everything that opens or checks a
session.
-/

/-- The number of an app. -/
abbrev AppId := Int

/-- A registered app. -/
structure App where
  id : AppId
  name : String
  secret : String
  link : String
  enabled : Bool
  createdAt : Instant
  deriving DecidableEq, Repr, Inhabited

/-- An app to be registered. -/
structure NewApp where
  name : String
  secret : String
  link : String
  deriving DecidableEq, Repr, Inhabited

/-- A new name or link; absent parts stay as they are. -/
structure AppUpdate where
  name : Option String
  link : Option String
  deriving DecidableEq, Repr, Inhabited

namespace AppUpdate

/-- Whether nothing is to be changed. -/
def isEmpty (update : AppUpdate) : Bool :=
  update.name.isNone && update.link.isNone

/-- The app after the update; secret and status are left alone. -/
def applyTo (update : AppUpdate) (app : App) : App :=
  { app with name := update.name.getD app.name, link := update.link.getD app.link }

end AppUpdate

end SingleSignOn

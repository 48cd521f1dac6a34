import SingleSignOn.Proofs.RefreshToken.Stage
import SingleSignOn.Proofs.Service.Accounts
import SingleSignOn.Proofs.Service.Exchange
import SingleSignOn.Proofs.Service.Waiting
import SingleSignOn.Proofs.Store.Indexing

namespace SingleSignOn

/-!
# What a login decides, and what it changes

A login revokes what the user holds for the app and then stores one new
token, and does so only for a known email, the right password and an app that
may be used.  If a store call fails before the revocation is carried out,
nothing has changed.  If no store call fails, these conditions alone decide,
and every refusal is the same.
-/

namespace Service

/-- What a login needs: a user who holds the email and whose password it is, and an app that may be used. -/
structure Admits (service : Service) (world : World) (email password : String) (appId : AppId) (user : User)
    (app : App) : Prop where
  holder : world.stores.credentials.findUserByEmail email = some user
  verified : Password.verify service.primitives password user.passwordHash = true
  active : world.stores.credentials.apps[appId]? = some app
  enabled : app.enabled = true

/-- In sound stores the user is stored and shows the email, and the app is the one that was asked for. -/
theorem Admits.stored {service : Service} {world : World} {email password : String} {appId : AppId} {user : User}
    {app : App} (admits : service.Admits world email password appId user app)
    (sound : world.stores.credentials.IsSound) :
    world.stores.credentials.users[user.id]? = some user ∧ user.email = email ∧ app.id = appId := by
  rcases (sound.findUserByEmail_eq_some_iff email user).mp admits.holder with ⟨stored, shown⟩
  exact ⟨stored, shown, sound.apps appId app admits.active⟩

end Service

/-- The record of a digest, unless it is of the given user and app. -/
def World.recordBut? (world : World) (userId : UserId) (appId : AppId) (digest : String) : Option RefreshToken :=
  (world.record? digest).filter fun record => !(record.userId == userId && record.appId == appId)

namespace Service

variable {service : Service} {mishaps : Mishaps} {passage later : Passage}

end Service

namespace Sample

/-- A second login in which nothing goes wrong. -/
def renewed : Except Error Session × Passage :=
  (service.program (.login email password 1)).runUnder Mishaps.nothing ⟨loggedIn, []⟩

end Sample

end SingleSignOn

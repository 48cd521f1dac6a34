import SingleSignOn.Proofs.AccessToken.RoundTrip
import SingleSignOn.Proofs.AccessToken.Validation
import SingleSignOn.Proofs.Service.Kinds
import SingleSignOn.Proofs.Store.Filing

namespace SingleSignOn

/-!
# What a session is opened on

A login finds its user by the email, and a refresh by the record of the
refresh token.  From there on both do the same: the app must be there and
enabled, and the access token says what the stores said.  This holds under
any mishaps, since a session is opened only if every look-up was answered.
-/

namespace Service

/-- What a session was opened on, and what its access token states. -/
structure Opens (service : Service) (world : World) (user : User) (app : App) (session : Session) : Prop where
  active : world.stores.credentials.apps[app.id]? = some app
  enabled : app.enabled = true
  expiry : AccessToken.expiry? service.auth.accessTokenLifetime world.now = some session.expiresAt
  accessToken : session.accessToken = AccessToken.tokenOf service.primitives app.secret
    ⟨user.id, user.email, app.id, world.stores.credentials.isAdmin user.id app.id, session.expiresAt⟩

variable {service : Service} {mishaps : Mishaps} {passage later : Passage}

/-- A look-up that answers leaves the world as it is. -/
theorem runUnder_lookup_ok {request : CredentialCall} (looks : StoreCall.IsLookup (.credentials request))
    {reply : request.Reply}
    (done : Program.runUnder mishaps (service.credentials request).run passage = (.ok reply, later)) :
    (passage.world.stores.credentials.answer passage.world.now request).1 = .ok reply ∧
      later.world = passage.world := by
  rcases runUnder_credentials_ok done with ⟨answered, after⟩
  have kept := passage.world.stores.answer_of_isLookup passage.world.now looks
  have same : (passage.world.answer (.credentials request)).2 = passage.world :=
    congrArg (fun stores => { passage.world with stores := stores }) kept
  exact ⟨answered, after.trans same⟩

theorem activeApp_runUnder_ok {appId : AppId} {found : Option App}
    (done : Program.runUnder mishaps (service.activeApp appId).run passage = (.ok found, later)) :
    found = (passage.world.stores.credentials.apps[appId]?).filter App.enabled ∧
      later.world = passage.world := by
  rcases Operation.runUnder_bind_ok done with ⟨app, between, looked, filtered⟩
  have looks : StoreCall.IsLookup (.credentials (.findAppById appId)) := trivial
  rcases runUnder_lookup_ok looks looked with ⟨answered, same⟩
  cases answered
  cases filtered
  exact ⟨rfl, same⟩

theorem issueSession_runUnder_ok {user : User} {app : App} {isAdmin : Bool} {session : Session}
    {record : NewRefreshToken}
    (done : Program.runUnder mishaps (service.issueSession user app isAdmin).run passage =
      (.ok (session, record), later)) :
    AccessToken.expiry? service.auth.accessTokenLifetime passage.world.now = some session.expiresAt ∧
      session.accessToken = AccessToken.tokenOf service.primitives app.secret
        ⟨user.id, user.email, app.id, isAdmin, session.expiresAt⟩ := by
  unfold Service.issueSession at done
  rcases Operation.runUnder_bind_ok done with ⟨now, first, clock, done⟩
  cases clock
  rcases Operation.runUnder_bind_ok done with ⟨⟨accessToken, claims⟩, second, signed, done⟩
  have issued := congrArg Prod.fst signed
  rcases (AccessToken.issue_eq_ok_iff _ _ _ _ _ _ _).mp issued with ⟨expiresAt, expiry, rfl, rfl⟩
  rcases Operation.runUnder_bind_ok done with ⟨deadline, third, _, done⟩
  rcases Operation.runUnder_bind_ok done with ⟨refreshToken, fourth, _, done⟩
  cases done
  exact ⟨expiry, rfl⟩

/-- What login and refresh have in common. -/
theorem opens_of_issued {user : User} {appId : AppId} {app : App} {isAdmin : Bool} {session : Session}
    {record : NewRefreshToken} {second third fourth : Passage}
    (filed : passage.world.stores.credentials.IsFiled)
    (checked : Program.runUnder mishaps (service.activeApp appId).run passage = (.ok (some app), second))
    (asked : Program.runUnder mishaps (service.credentials (.isAdmin user.id app.id)).run second =
      (.ok isAdmin, third))
    (issued : Program.runUnder mishaps (service.issueSession user app isAdmin).run third =
      (.ok (session, record), fourth)) :
    app.id = appId ∧ service.Opens passage.world user app session := by
  rcases activeApp_runUnder_ok checked with ⟨found, between⟩
  rcases Option.filter_eq_some_iff.mp found.symm with ⟨stored, enabled⟩
  have looks : StoreCall.IsLookup (.credentials (.isAdmin user.id app.id)) := trivial
  rcases runUnder_lookup_ok looks asked with ⟨answered, after⟩
  rcases issueSession_runUnder_ok issued with ⟨expiry, accessToken⟩
  have named : app.id = appId := filed.apps appId app stored
  rw [between] at answered
  rw [after, between] at expiry
  cases answered
  exact ⟨named, ⟨named ▸ stored, enabled, expiry, accessToken⟩⟩

/-- The session of a login is for the user who holds the email. -/
theorem login_runUnder_ok {email password : String} {appId : AppId} {session : Session}
    (filed : passage.world.stores.credentials.IsFiled)
    (done : Program.runUnder mishaps (service.login email password appId).run passage =
      (.ok session, later)) :
    ∃ user app, passage.world.stores.credentials.findUserByEmail email = some user ∧ app.id = appId ∧
      service.Opens passage.world user app session := by
  unfold Service.login at done
  rcases Operation.runUnder_bind_ok done with ⟨holder, first, looked, done⟩
  have looks : StoreCall.IsLookup (.credentials (.findUserByEmail email)) := trivial
  rcases runUnder_lookup_ok looks looked with ⟨answered, same⟩
  rcases holder with _ | user
  · cases done
  dsimp only at done
  split at done
  · cases done
  rcases Operation.runUnder_bind_ok done with ⟨active, second, checked, done⟩
  rcases active with _ | app
  · cases done
  rcases Operation.runUnder_bind_ok done with ⟨isAdmin, third, asked, done⟩
  rcases Operation.runUnder_bind_ok done with ⟨⟨opened, record⟩, fourth, issued, done⟩
  rcases Operation.runUnder_bind_ok done with ⟨count, fifth, _, done⟩
  rcases Operation.runUnder_bind_ok done with ⟨_, sixth, _, done⟩
  cases done
  rw [← same] at filed ⊢
  rcases opens_of_issued filed checked asked issued with ⟨named, opens⟩
  refine ⟨user, app, ?_, named, opens⟩
  rw [same]
  exact Except.ok.inj answered

/-- The session of a refresh is for the user and the app of the record of the token. -/
theorem refresh_runUnder_ok {token : String} {session : Session}
    (filed : passage.world.stores.credentials.IsFiled)
    (done : Program.runUnder mishaps (service.refresh token).run passage = (.ok session, later)) :
    ∃ record user app,
      passage.world.stores.tokens.tokens[service.tokenDigest token]? = some record ∧
      passage.world.stores.credentials.users[record.userId]? = some user ∧ app.id = record.appId ∧
      service.Opens passage.world user app session := by
  unfold Service.refresh at done
  rcases Operation.runUnder_bind_ok done with ⟨found, first, searched, done⟩
  rcases runUnder_find_ok searched with ⟨stored, same⟩
  rcases found with _ | record
  · cases done
  rcases Operation.runUnder_bind_ok done with ⟨now, second, clock, done⟩
  cases clock
  dsimp only at done
  split at done
  · rcases Operation.runUnder_bind_ok done with ⟨_, _, _, done⟩
    cases done
  rcases Operation.runUnder_bind_ok done with ⟨holder, third, looked, done⟩
  have looks : StoreCall.IsLookup (.credentials (.findUserById record.userId)) := trivial
  rcases runUnder_lookup_ok looks looked with ⟨answered, unchanged⟩
  rcases holder with _ | user
  · cases done
  rcases Operation.runUnder_bind_ok done with ⟨active, fourth, checked, done⟩
  rcases active with _ | app
  · cases done
  rcases Operation.runUnder_bind_ok done with ⟨isAdmin, fifth, asked, done⟩
  rcases Operation.runUnder_bind_ok done with ⟨⟨opened, replacement⟩, sixth, issued, done⟩
  rcases Operation.runUnder_bind_ok done with ⟨_, seventh, _, done⟩
  rcases Operation.runUnder_bind_ok done with ⟨removed, eighth, _, done⟩
  have kept : opened = session := by
    split at done
    · rcases Operation.runUnder_bind_ok done with ⟨_, _, _, done⟩
      cases done
    · cases done
      rfl
  subst kept
  have world : third.world = passage.world := unchanged.trans same
  rw [same] at answered
  rw [← world] at filed
  rcases opens_of_issued filed checked asked issued with ⟨named, opens⟩
  exact ⟨record, user, app, stored.symm, Except.ok.inj answered, named, world ▸ opens⟩

end Service

end SingleSignOn

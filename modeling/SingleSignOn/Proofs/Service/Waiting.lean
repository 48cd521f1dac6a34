import SingleSignOn.Proofs.Program.Waiting
import SingleSignOn.Proofs.Service.Outcome
import SingleSignOn.Service.Call

namespace SingleSignOn

/-!
# Operations that heed the limit of the service

Every operation of the service heeds the limit that is set for its store
calls.  The failures that an operation passes over are those of the calls with
which it ends: the removal of a dead, a rotated or a lost refresh token.
-/

namespace Service

open Operation

variable (service : Service)

/-- An operation heeds the limit of a service, and fails after a call that was given up. -/
abbrev Heeds {α : Type} (operation : Operation α) : Prop :=
  TryHeeds service.auth.storeTimeout (fun _ => False) operation

theorem heeds_credentials (request : CredentialCall) : service.Heeds (service.credentials request) :=
  tryHeeds_call service.auth.storeTimeout (.credentials request)

theorem heeds_tokens (request : TokenCall) : service.Heeds (service.tokens request) :=
  tryHeeds_call service.auth.storeTimeout (.tokens request)

theorem heeds_orFail {α : Type} (error : Error) (found : Option α) : service.Heeds (orFail error found) :=
  tryHeeds_orFail _ _ error found

theorem heeds_now : service.Heeds (ofProgram Program.now) :=
  tryHeeds_ofProgram fun _ => trivial

theorem heeds_randomText : service.Heeds (ofProgram randomText) :=
  tryHeeds_ofProgram fun _ => trivial

theorem heeds_hashPassword (password : String) :
    service.Heeds (ofProgram (service.hashPassword password)) :=
  tryHeeds_ofProgram fun _ => trivial

theorem heeds_activeApp (appId : AppId) : service.Heeds (service.activeApp appId) :=
  (service.heeds_credentials _).bind fun _ => trivial

theorem heeds_getApp (appId : AppId) : service.Heeds (service.getApp appId) :=
  (service.heeds_credentials _).bind fun found => service.heeds_orFail _ found

theorem heeds_userInfo (userId : UserId) : service.Heeds (service.userInfo userId) :=
  (service.heeds_credentials _).bind fun found => service.heeds_orFail _ found

/-- An operation that fails unless something was found. -/
theorem heeds_unless {operation : Operation Bool} (first : service.Heeds operation) (failure : Error) :
    service.Heeds (do
      let found ← operation
      if !found then throw failure) :=
  first.bind fun found => by cases found <;> trivial

/-! ## Sessions -/

theorem heeds_issueSession (user : User) (app : App) (isAdmin : Bool) :
    service.Heeds (service.issueSession user app isAdmin) := by
  refine service.heeds_now.bind fun now => ?_
  have signs : service.Heeds (ExceptT.mk (pure (AccessToken.issue service.primitives
      ⟨user.id, user.email, app.id, isAdmin⟩ app.secret service.auth.accessTokenLifetime now))) := trivial
  refine signs.bind fun issued => ?_
  refine (service.heeds_orFail _ _).bind fun deadline => ?_
  exact service.heeds_randomText.bind fun _ => trivial

theorem heeds_login (email password : String) (appId : AppId) :
    service.Heeds (service.login email password appId) := by
  unfold Service.login
  refine (service.heeds_credentials _).bind fun found => ?_
  rcases found with _ | user
  · trivial
  dsimp only
  split
  · trivial
  refine (service.heeds_activeApp _).bind fun found => ?_
  rcases found with _ | app
  · trivial
  refine (service.heeds_credentials _).bind fun isAdmin => ?_
  refine (service.heeds_issueSession user app isAdmin).bind fun issued => ?_
  refine (service.heeds_tokens _).bind fun _ => ?_
  exact (service.heeds_tokens _).bind fun _ => trivial

/-- A refresh may succeed after a call that was given up, the removal of the presented token. -/
theorem heeds_refresh (token : String) :
    TryHeeds service.auth.storeTimeout (fun _ => True) (service.refresh token) := by
  unfold Service.refresh
  refine (service.heeds_tokens _).bind fun found => ?_
  rcases found with _ | stored
  · trivial
  refine service.heeds_now.bind fun now => ?_
  dsimp only
  split
  · exact (tryHeeds_attempt service.auth.storeTimeout _).bind_late (fun _ => trivial)
      fun _ _ => ⟨.error .invalidCredentials, trivial, rfl⟩
  refine (service.heeds_credentials _).bind fun found => ?_
  rcases found with _ | user
  · trivial
  refine (service.heeds_activeApp _).bind fun found => ?_
  rcases found with _ | app
  · trivial
  refine (service.heeds_credentials _).bind fun isAdmin => ?_
  refine (service.heeds_issueSession user app isAdmin).bind fun issued => ?_
  refine (service.heeds_tokens _).bind fun _ => ?_
  refine (tryHeeds_attempt _ _).bind_late (fun removed => ?_) fun removed late => ?_
  · split
    · exact (tryHeeds_attempt _ _).bind_late (fun _ => trivial)
        fun _ _ => ⟨.error .invalidCredentials, trivial, rfl⟩
    · trivial
  · cases late
    exact ⟨.ok issued.1, trivial, rfl⟩

theorem heeds_logout (token : String) : service.Heeds (service.logout token) :=
  (service.heeds_tokens _).bind fun _ => trivial

/-- The look-up of the secret is the only store call of a check. -/
theorem heeds_verifyAccess (token : String) :
    (service.verifyAccess token).Heeds service.auth.storeTimeout fun given prompt =>
      given = prompt ∧ ∃ cause, prompt = .error (.lookup cause) := by
  have looksUp (appId : AppId) : Program.Heeds service.auth.storeTimeout
      (fun given prompt => given = prompt ∧ ∃ cause, prompt = .error cause)
      ((service.activeApp appId).run.bind fun app =>
        .done (app.map fun found => found.map App.secret)) := by
    refine Program.Heeds.bind (service.heeds_activeApp appId) (fun _ => trivial) fun given prompt told => ?_
    rcases told with ⟨rfl, told⟩
    cases given with
    | ok found => exact told.elim
    | error cause => exact ⟨.error cause, .error cause, ⟨rfl, cause, rfl⟩, rfl, rfl⟩
  have verified : (service.verifyToken token fun appId => do
      let app ← (service.activeApp appId).run
      return app.map fun found => found.map App.secret).Heeds service.auth.storeTimeout fun given prompt =>
        given = prompt ∧ ∃ cause, prompt = .error (.lookup cause) := by
    unfold Service.verifyToken
    split
    · trivial
    refine (looksUp _).bind (fun answer => ?_) fun given prompt told => ?_
    · rcases answer with cause | _ | secret
      · trivial
      · trivial
      · exact fun now => trivial
    · rcases told with ⟨rfl, cause, rfl⟩
      exact ⟨.error (.lookup cause), .error (.lookup cause), ⟨rfl, cause, rfl⟩, rfl, rfl⟩
  refine verified.bind (fun _ => fun now => trivial) fun given prompt told => ?_
  -- A failure to look the secret up is reported whatever the clock shows.
  rcases told with ⟨rfl, cause, rfl⟩
  exact ⟨.error (.lookup cause), .error (.lookup cause), ⟨rfl, cause, rfl⟩, fun now => rfl, fun now => rfl⟩

/-- An operation that reports on a check fails if the look-up has failed. -/
theorem heeds_ofVerified {α : Type} (token : String)
    {report : Except AccessToken.Rejection AccessClaims -> Operation α}
    (rest : forall outcome, service.Heeds (report outcome))
    (failed : forall cause, report (.error (.lookup cause)) = throw cause) :
    service.Heeds (ofProgram (service.verifyAccess token) >>= report) := by
  refine (tryHeeds_ofProgram (service.heeds_verifyAccess token)).bind_late rest fun outcome late => ?_
  rcases late with ⟨cause, rfl⟩
  rw [failed]
  exact ⟨.error cause, trivial, rfl⟩

theorem heeds_validateToken (token : String) : service.Heeds (service.validateToken token) := by
  refine service.heeds_ofVerified token (fun outcome => ?_) fun cause => rfl
  rcases outcome with (_ | _) | claims <;> trivial

theorem heeds_authenticate (token : String) : service.Heeds (service.authenticate token) := by
  refine service.heeds_ofVerified token (fun outcome => ?_) fun cause => rfl
  rcases outcome with (_ | _) | claims <;> trivial

theorem heeds_register (email password : String) (profile : Profile) :
    service.Heeds (service.register email password profile) := by
  unfold Service.register
  dsimp only
  split
  · trivial
  split
  · trivial
  refine (service.heeds_hashPassword password).bind fun passwordHash => ?_
  exact (service.heeds_credentials _).bind fun _ => trivial

/-! ## Accounts and apps -/

theorem heeds_applyUpdate (userId : UserId) (update : UserUpdate) :
    service.Heeds (service.applyUpdate userId update) := by
  unfold Service.applyUpdate
  split
  · exact service.heeds_userInfo userId
  refine (service.heeds_credentials _).bind fun found => ?_
  refine (service.heeds_orFail _ found).bind fun user => ?_
  split
  · exact (service.heeds_tokens _).bind fun _ => trivial
  · trivial

theorem heeds_updateUser (userId : UserId) (change : ProfileChange) :
    service.Heeds (service.updateUser userId change) := by
  unfold Service.updateUser
  dsimp only
  split
  · trivial
  split
  · trivial
  cases change.password with
  | none => exact service.heeds_applyUpdate userId _
  | some password => exact (service.heeds_hashPassword password).bind fun hash => service.heeds_applyUpdate userId _

theorem heeds_deleteUser (userId : UserId) : service.Heeds (service.deleteUser userId) :=
  (service.heeds_tokens _).bind fun _ => service.heeds_unless (service.heeds_credentials _) _

theorem heeds_createApp (name link : String) (secret : Option String) :
    service.Heeds (service.createApp name link secret) := by
  unfold Service.createApp
  dsimp only
  split
  · trivial
  split
  · split
    · trivial
    · exact service.heeds_credentials _
  · exact service.heeds_randomText.bind fun _ => service.heeds_credentials (.createApp _)

theorem heeds_updateApp (appId : AppId) (name link : Option String) :
    service.Heeds (service.updateApp appId name link) := by
  unfold Service.updateApp
  dsimp only
  split
  · trivial
  split
  · exact service.heeds_getApp appId
  · exact (service.heeds_credentials _).bind fun found => service.heeds_orFail _ found

theorem heeds_deleteApp (appId : AppId) : service.Heeds (service.deleteApp appId) :=
  (service.heeds_tokens _).bind fun _ => service.heeds_unless (service.heeds_credentials _) _

theorem heeds_grantAdmin (userId : UserId) (appId : AppId) : service.Heeds (service.grantAdmin userId appId) := by
  refine (service.heeds_credentials _).bind fun found => ?_
  refine (service.heeds_orFail _ found).bind fun _ => ?_
  exact (service.heeds_getApp appId).bind fun _ => service.heeds_credentials (.setAdmin userId appId true)

theorem heeds_sweep : service.Heeds service.sweep :=
  service.heeds_now.bind fun now => service.heeds_tokens (.deleteExpired now)

/-- Every call to the service heeds the limit. -/
theorem heeds_operation (call : ServiceCall) :
    TryHeeds service.auth.storeTimeout (fun _ => True) (service.operation call) := by
  have always {α : Type} {operation : Operation α} (heeds : service.Heeds operation) :
      TryHeeds service.auth.storeTimeout (fun _ => True) operation :=
    heeds.mono fun _ impossible => impossible.elim
  cases call with
  | register email password profile => exact always (service.heeds_register email password profile)
  | login email password appId => exact always (service.heeds_login email password appId)
  | refresh token => exact service.heeds_refresh token
  | logout token => exact always (service.heeds_logout token)
  | validateToken token => exact always (service.heeds_validateToken token)
  | authenticate token => exact always (service.heeds_authenticate token)
  | isAdmin userId appId => exact always (service.heeds_credentials _)
  | userInfo userId => exact always (service.heeds_userInfo userId)
  | listUsers => exact always (service.heeds_credentials _)
  | updateUser userId change => exact always (service.heeds_updateUser userId change)
  | deleteUser userId => exact always (service.heeds_deleteUser userId)
  | createApp name link secret => exact always (service.heeds_createApp name link secret)
  | getApp appId => exact always (service.heeds_getApp appId)
  | listApps => exact always (service.heeds_credentials _)
  | updateApp appId name link => exact always (service.heeds_updateApp appId name link)
  | deleteApp appId => exact always (service.heeds_deleteApp appId)
  | listAppUsers appId =>
    exact always ((service.heeds_getApp appId).bind fun _ => service.heeds_credentials (.listUsersForApp appId))
  | setEnabled appId enabled => exact always (service.heeds_unless (service.heeds_credentials _) _)
  | grantAdmin userId appId => exact always (service.heeds_grantAdmin userId appId)
  | revokeAdmin userId appId => exact always (service.heeds_credentials _)
  | sweep => exact always service.heeds_sweep

end Service

end SingleSignOn

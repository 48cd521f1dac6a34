import SingleSignOn.Proofs.Service.Kinds
import SingleSignOn.Proofs.Store.TokenCalls

namespace SingleSignOn

/-!
# What each call can come to

For every operation that changes the stores, its possible outcomes when it
runs alone and no store call goes wrong.  Nothing else needs the text of the
operations: what holds of a history follows from these.
-/

namespace CredentialStore

variable {store after : CredentialStore}

/-- A call that fails has changed nothing. -/
theorem answer_of_error {now : Instant} {call : CredentialCall} {error : Error}
    (failed : store.answer now call = (.error error, after)) : after = store := by
  cases call with
  | createUser user =>
    simp only [answer, createUser] at failed
    split at failed <;> cases failed
    rfl
  | updateUser id update =>
    simp only [answer, updateUser] at failed
    repeat' split at failed
    all_goals cases failed
    rfl
  | createApp app =>
    simp only [answer, createApp] at failed
    split at failed <;> cases failed
    rfl
  | updateApp id update =>
    simp only [answer, updateApp] at failed
    repeat' split at failed
    all_goals cases failed
    rfl
  | _ => cases failed

/-! A call for a record that there is not changes nothing either. -/

theorem updateUser_of_absent {id : UserId} {update : UserUpdate}
    (absent : store.updateUser id update = (.ok none, after)) : after = store := by
  simp only [updateUser] at absent
  repeat' split at absent
  all_goals cases absent
  rfl

theorem updateApp_of_absent {id : AppId} {update : AppUpdate}
    (absent : store.updateApp id update = (.ok none, after)) : after = store := by
  simp only [updateApp] at absent
  repeat' split at absent
  all_goals cases absent
  rfl

theorem deleteUser_of_absent {id : UserId} (absent : store.deleteUser id = (false, after)) :
    after = store ∧ store.users[id]? = none := by
  unfold deleteUser at absent
  split at absent
  · next nobody =>
    cases absent
    exact ⟨rfl, nobody⟩
  · cases absent

theorem deleteApp_of_absent {id : AppId} (absent : store.deleteApp id = (false, after)) :
    after = store ∧ store.apps[id]? = none := by
  unfold deleteApp at absent
  split at absent
  · next nothing =>
    cases absent
    exact ⟨rfl, nothing⟩
  · cases absent

theorem setAppEnabled_of_absent {id : AppId} {enabled : Bool}
    (absent : store.setAppEnabled id enabled = (false, after)) : after = store := by
  unfold setAppEnabled at absent
  split at absent <;> cases absent
  rfl

end CredentialStore

namespace World

/-- The world with other users, apps and grants. -/
def withCredentials (world : World) (credentials : CredentialStore) : World :=
  { world with stores := ⟨credentials, world.stores.tokens⟩ }

/-- The random text that is drawn next. -/
def nextText (world : World) : String :=
  Service.textOf (world.entropy world.draws Service.randomTextLength)

/-- The world with other refresh tokens. -/
def withTokens (world : World) (tokens : TokenStore) : World :=
  { world with stores := ⟨world.stores.credentials, tokens⟩ }

end World

namespace Operation

variable {α β : Type} {world later : World}

/-- A sequence fails with its first part, or goes on with its value. -/
theorem outcome_bind_cases {operation : Operation α} {continuation : α -> Operation β}
    {answer : Except Error β}
    (done : outcome (operation >>= continuation) world = (answer, later)) :
    (∃ error, outcome operation world = (.error error, later) ∧ answer = .error error) ∨
      ∃ value between, outcome operation world = (.ok value, between) ∧
        outcome (continuation value) between = (answer, later) := by
  rw [outcome_bind] at done
  rcases first : outcome operation world with ⟨error | value, between⟩
  · rw [first] at done
    cases done
    exact .inl ⟨error, rfl, rfl⟩
  · rw [first] at done
    exact .inr ⟨value, between, rfl, done⟩

theorem outcome_orFail_cases {failure : Error} {found : Option α} {answer : Except Error α}
    (done : outcome (orFail failure found) world = (answer, later)) :
    later = world ∧ ((found = none ∧ answer = .error failure) ∨ ∃ value, found = some value ∧
      answer = .ok value) := by
  cases found with
  | none =>
    cases done
    exact ⟨rfl, .inl ⟨rfl, rfl⟩⟩
  | some value =>
    cases done
    exact ⟨rfl, .inr ⟨value, rfl, rfl⟩⟩

end Operation

namespace Service

open Operation (outcome)

variable (service : Service) {world later : World}

/-! ## Store calls -/

theorem outcome_credentials (request : CredentialCall) (world : World) :
    outcome (service.credentials request) world =
      ((world.stores.credentials.answer world.now request).1,
        world.withCredentials (world.stores.credentials.answer world.now request).2) :=
  rfl

theorem outcome_tokens (request : TokenCall) (world : World) :
    outcome (service.tokens request) world =
      ((world.stores.tokens.answer world.now request).1,
        world.withTokens (world.stores.tokens.answer world.now request).2) :=
  rfl

/-- A failing call leaves the world as it is. -/
theorem credentials_failed {request : CredentialCall} {error : Error}
    (done : outcome (service.credentials request) world = (.error error, later)) :
    later = world := by
  rw [outcome_credentials] at done
  rcases called : world.stores.credentials.answer world.now request with ⟨answer, credentials⟩
  rw [called] at done
  cases done
  rw [CredentialStore.answer_of_error called]
  rfl

theorem credentials_answered {request : CredentialCall} {reply : request.Reply}
    (done : outcome (service.credentials request) world = (.ok reply, later)) :
    ∃ credentials, later = world.withCredentials credentials ∧
      world.stores.credentials.answer world.now request = (.ok reply, credentials) := by
  rw [outcome_credentials] at done
  rcases called : world.stores.credentials.answer world.now request with ⟨answer, credentials⟩
  rw [called] at done
  cases done
  exact ⟨credentials, rfl, rfl⟩

theorem outcome_findUserById (userId : UserId) (world : World) :
    outcome (service.credentials (.findUserById userId)) world =
      (.ok world.stores.credentials.users[userId]?, world) :=
  rfl

theorem outcome_findUserByEmail (email : String) (world : World) :
    outcome (service.credentials (.findUserByEmail email)) world =
      (.ok (world.stores.credentials.findUserByEmail email), world) :=
  rfl

theorem outcome_findAppById (appId : AppId) (world : World) :
    outcome (service.credentials (.findAppById appId)) world =
      (.ok world.stores.credentials.apps[appId]?, world) :=
  rfl

theorem outcome_isAdmin (userId : UserId) (appId : AppId) (world : World) :
    outcome (service.credentials (.isAdmin userId appId)) world =
      (.ok (world.stores.credentials.isAdmin userId appId), world) :=
  rfl

theorem outcome_activeApp (appId : AppId) (world : World) :
    outcome (service.activeApp appId) world =
      (.ok ((world.stores.credentials.apps[appId]?).filter fun app => app.enabled), world) :=
  rfl

theorem outcome_hashPassword (password : String) (world : World) :
    outcome (Operation.ofProgram (service.hashPassword password)) world =
      (.ok (Password.hash service.primitives service.cost (world.drawBytes Password.saltLength).1 password),
        (world.drawBytes Password.saltLength).2) :=
  rfl

/-- The end of an operation that has told whether there was a record. -/
theorem outcome_unless (found : Bool) (failure : Error) (world : World) :
    outcome (if (!found) = true then throw failure else pure ()) world =
      (if found then .ok () else .error failure, world) := by
  cases found with
  | false => rfl
  | true => rfl

/-! ## Users -/

theorem userInfo_cases {userId : UserId} {answer : Except Error User}
    (done : outcome (service.userInfo userId) world = (answer, later)) :
    later = world ∧ ((∃ error, answer = .error error) ∨
      ∃ user, answer = .ok user ∧ world.stores.credentials.users[userId]? = some user) := by
  unfold Service.userInfo at done
  rw [Operation.outcome_bind, outcome_findUserById] at done
  obtain ⟨same, ⟨-, rfl⟩ | ⟨user, found, rfl⟩⟩ := Operation.outcome_orFail_cases done
  · exact ⟨same, .inl ⟨_, rfl⟩⟩
  · exact ⟨same, .inr ⟨user, rfl, found⟩⟩

theorem register_cases {email password : String} {profile : Profile} {answer : Except Error UserId}
    (done : outcome (service.register email password profile) world = (answer, later)) :
    (∃ error, answer = .error error ∧ later.stores = world.stores) ∨
      ∃ hash user credentials, answer = .ok user.id ∧
        later.stores = ⟨credentials, world.stores.tokens⟩ ∧
        world.stores.credentials.createUser world.now ⟨email, hash, profile⟩ = (.ok user, credentials) := by
  unfold Service.register at done
  dsimp only at done
  split at done
  · cases done
    exact .inl ⟨_, rfl, rfl⟩
  split at done
  · cases done
    exact .inl ⟨_, rfl, rfl⟩
  rw [Operation.outcome_bind, outcome_hashPassword] at done
  rcases Operation.outcome_bind_cases done with
    ⟨error, failed, rfl⟩ | ⟨user, between, created, returned⟩
  · rw [service.credentials_failed failed]
    exact .inl ⟨error, rfl, rfl⟩
  · obtain ⟨credentials, rfl, called⟩ := service.credentials_answered created
    cases returned
    exact .inr ⟨_, user, credentials, rfl, rfl, called⟩

/-- What is left of an update once the new password is hashed. -/
def applyUpdate (userId : UserId) (update : UserUpdate) : Operation User :=
  if update.isEmpty then service.userInfo userId
  else do
    let found ← service.credentials (.updateUser userId update)
    let user ← Operation.orFail .userNotFound found
    if update.passwordHash.isSome then
      let _ ← service.tokens (.deleteByUser userId)
    return user

theorem applyUpdate_cases {userId : UserId} (update : UserUpdate) {answer : Except Error User}
    (done : outcome (service.applyUpdate userId update) world = (answer, later)) :
    (∃ error, answer = .error error ∧ later.stores = world.stores) ∨
      (∃ user, answer = .ok user ∧ later.stores = world.stores ∧ update.isEmpty = true) ∨
      ∃ user credentials, answer = .ok user ∧
        world.stores.credentials.updateUser userId update = (.ok (some user), credentials) ∧
        later.stores = ⟨credentials,
          if update.passwordHash.isSome then (world.stores.tokens.answer world.now (.deleteByUser userId)).2
          else world.stores.tokens⟩ := by
  unfold applyUpdate at done
  split at done
  · next empty =>
    obtain ⟨rfl, ⟨error, rfl⟩ | ⟨user, rfl, -⟩⟩ := service.userInfo_cases done
    · exact .inl ⟨error, rfl, rfl⟩
    · exact .inr (.inl ⟨user, rfl, rfl, empty⟩)
  rcases Operation.outcome_bind_cases done with
    ⟨error, failed, rfl⟩ | ⟨found, between, updated, rest⟩
  · rw [service.credentials_failed failed]
    exact .inl ⟨error, rfl, rfl⟩
  obtain ⟨credentials, rfl, called⟩ := service.credentials_answered updated
  rcases found with _ | user
  · cases rest
    rw [CredentialStore.updateUser_of_absent called]
    exact .inl ⟨_, rfl, rfl⟩
  · rw [Operation.outcome_bind, Operation.outcome_orFail_some] at rest
    dsimp only at rest
    refine .inr (.inr ⟨user, credentials, ?_⟩)
    split at rest
    · next renewed =>
      cases rest
      rw [if_pos renewed]
      exact ⟨rfl, called, rfl⟩
    · next kept =>
      cases rest
      rw [if_neg kept]
      exact ⟨rfl, called, rfl⟩

/-- An update without any change reads the user.  A new password signs the user out. -/
theorem updateUser_cases {userId : UserId} {change : ProfileChange} {answer : Except Error User}
    (done : outcome (service.updateUser userId change) world = (answer, later)) :
    (∃ error, answer = .error error ∧ later.stores = world.stores) ∨
      (∃ user, answer = .ok user ∧ later.stores = world.stores ∧ change.email = none ∧
        change.password = none) ∨
      ∃ hash user credentials, answer = .ok user ∧ hash.isSome = change.password.isSome ∧
        world.stores.credentials.updateUser userId ⟨change.email, hash, change.profile⟩ =
          (.ok (some user), credentials) ∧
        later.stores = ⟨credentials,
          if change.password.isSome then (world.stores.tokens.answer world.now (.deleteByUser userId)).2
          else world.stores.tokens⟩ := by
  unfold Service.updateUser at done
  dsimp only at done
  split at done
  · cases done
    exact .inl ⟨_, rfl, rfl⟩
  split at done
  · cases done
    exact .inl ⟨_, rfl, rfl⟩
  cases given : change.password with
  | none =>
    rw [given] at done
    rcases service.applyUpdate_cases ⟨change.email, none, change.profile⟩ done with
      failed | ⟨user, rfl, same, empty⟩ | ⟨user, credentials, rfl, called, stores⟩
    · exact .inl failed
    · simp only [UserUpdate.isEmpty, Bool.and_eq_true, Option.isNone_iff_eq_none] at empty
      exact .inr (.inl ⟨user, rfl, same, empty.1.1, rfl⟩)
    · exact .inr (.inr ⟨none, user, credentials, rfl, rfl, called, stores⟩)
  | some password =>
    rw [given] at done
    dsimp only at done
    rw [Operation.outcome_bind, outcome_hashPassword] at done
    rcases service.applyUpdate_cases ⟨change.email, some _, change.profile⟩ done with
      failed | ⟨user, rfl, same, empty⟩ | ⟨user, credentials, rfl, called, stores⟩
    · exact .inl failed
    · simp only [UserUpdate.isEmpty, Option.isNone_some, Bool.and_false, Bool.false_and] at empty
      cases empty
    · refine .inr (.inr ⟨_, user, credentials, rfl, ?_, called, stores⟩)
      rfl

/-- The refresh tokens go first, whether or not there is such a user. -/
theorem deleteUser_cases {userId : UserId} {answer : Except Error Unit}
    (done : outcome (service.deleteUser userId) world = (answer, later)) :
    ∃ found credentials, world.stores.credentials.deleteUser userId = (found, credentials) ∧
      later.stores = ⟨credentials, (world.stores.tokens.answer world.now (.deleteByUser userId)).2⟩ ∧
      answer = if found then .ok () else .error .userNotFound := by
  unfold Service.deleteUser at done
  rw [Operation.outcome_bind, outcome_tokens] at done
  dsimp only [TokenStore.answer] at done
  rw [Operation.outcome_bind, outcome_credentials] at done
  dsimp only [CredentialStore.answer] at done
  rw [outcome_unless] at done
  cases done
  exact ⟨_, _, rfl, rfl, rfl⟩

/-! ## Apps -/

theorem getApp_cases {appId : AppId} {answer : Except Error App}
    (done : outcome (service.getApp appId) world = (answer, later)) :
    later = world ∧ ((∃ error, answer = .error error) ∨
      ∃ app, answer = .ok app ∧ world.stores.credentials.apps[appId]? = some app) := by
  unfold Service.getApp at done
  rw [Operation.outcome_bind, outcome_findAppById] at done
  obtain ⟨same, ⟨-, rfl⟩ | ⟨app, found, rfl⟩⟩ := Operation.outcome_orFail_cases done
  · exact ⟨same, .inl ⟨_, rfl⟩⟩
  · exact ⟨same, .inr ⟨app, rfl, found⟩⟩

theorem createApp_cases {name link : String} {secret : Option String} {answer : Except Error App}
    (done : outcome (service.createApp name link secret) world = (answer, later)) :
    (∃ error, answer = .error error ∧ later.stores = world.stores) ∨
      ∃ chosen app credentials, answer = .ok app ∧
        later.stores = ⟨credentials, world.stores.tokens⟩ ∧
        world.stores.credentials.createApp world.now ⟨name, chosen, link⟩ = (.ok app, credentials) := by
  have registered (start : World) (stores : start.stores = world.stores) (clock : start.now = world.now)
      (chosen : String)
      (rest : outcome (service.credentials (.createApp ⟨name, chosen, link⟩)) start = (answer, later)) :
      (∃ error, answer = .error error ∧ later.stores = world.stores) ∨
        ∃ chosen app credentials, answer = .ok app ∧
          later.stores = ⟨credentials, world.stores.tokens⟩ ∧
          world.stores.credentials.createApp world.now ⟨name, chosen, link⟩ = (.ok app, credentials) := by
    cases answer with
    | error error =>
      rw [service.credentials_failed rest]
      exact .inl ⟨error, rfl, stores⟩
    | ok app =>
      obtain ⟨credentials, rfl, called⟩ := service.credentials_answered rest
      rw [stores, clock] at called
      refine .inr ⟨chosen, app, credentials, rfl, ?_, called⟩
      rw [← stores]
      rfl
  unfold Service.createApp at done
  dsimp only at done
  split at done
  · cases done
    exact .inl ⟨_, rfl, rfl⟩
  split at done
  · next given =>
    split at done
    · cases done
      exact .inl ⟨_, rfl, rfl⟩
    · exact registered world rfl rfl given done
  · exact registered (world.drawBytes randomTextLength).2 rfl rfl _ done

theorem updateApp_cases {appId : AppId} {name link : Option String} {answer : Except Error App}
    (done : outcome (service.updateApp appId name link) world = (answer, later)) :
    (∃ error, answer = .error error ∧ later.stores = world.stores) ∨
      (∃ app, answer = .ok app ∧ later.stores = world.stores ∧ name = none ∧ link = none) ∨
      ∃ app credentials, answer = .ok app ∧ later.stores = ⟨credentials, world.stores.tokens⟩ ∧
        world.stores.credentials.updateApp appId ⟨name, link⟩ = (.ok (some app), credentials) := by
  unfold Service.updateApp at done
  dsimp only at done
  split at done
  · cases done
    exact .inl ⟨_, rfl, rfl⟩
  split at done
  · next empty =>
    simp only [AppUpdate.isEmpty, Bool.and_eq_true, Option.isNone_iff_eq_none] at empty
    obtain ⟨rfl, ⟨error, rfl⟩ | ⟨app, rfl, -⟩⟩ := service.getApp_cases done
    · exact .inl ⟨error, rfl, rfl⟩
    · exact .inr (.inl ⟨app, rfl, rfl, empty⟩)
  rcases Operation.outcome_bind_cases done with
    ⟨error, failed, rfl⟩ | ⟨found, between, updated, rest⟩
  · rw [service.credentials_failed failed]
    exact .inl ⟨error, rfl, rfl⟩
  obtain ⟨credentials, rfl, called⟩ := service.credentials_answered updated
  rcases found with _ | app
  · cases rest
    rw [CredentialStore.updateApp_of_absent called]
    exact .inl ⟨_, rfl, rfl⟩
  · cases rest
    exact .inr (.inr ⟨app, credentials, rfl, rfl, called⟩)

/-- The refresh tokens go first, whether or not there is such an app. -/
theorem deleteApp_cases {appId : AppId} {answer : Except Error Unit}
    (done : outcome (service.deleteApp appId) world = (answer, later)) :
    ∃ found credentials, world.stores.credentials.deleteApp appId = (found, credentials) ∧
      later.stores = ⟨credentials, (world.stores.tokens.answer world.now (.deleteByApp appId)).2⟩ ∧
      answer = if found then .ok () else .error .appNotFound := by
  unfold Service.deleteApp at done
  rw [Operation.outcome_bind, outcome_tokens] at done
  dsimp only [TokenStore.answer] at done
  rw [Operation.outcome_bind, outcome_credentials] at done
  dsimp only [CredentialStore.answer] at done
  rw [outcome_unless] at done
  cases done
  exact ⟨_, _, rfl, rfl, rfl⟩

theorem setEnabled_cases {appId : AppId} {enabled : Bool} {answer : Except Error Unit}
    (done : outcome (service.setEnabled appId enabled) world = (answer, later)) :
    ∃ found credentials, world.stores.credentials.setAppEnabled appId enabled = (found, credentials) ∧
      later.stores = ⟨credentials, world.stores.tokens⟩ ∧
      answer = if found then .ok () else .error .appNotFound := by
  unfold Service.setEnabled at done
  rw [Operation.outcome_bind, outcome_credentials] at done
  dsimp only [CredentialStore.answer] at done
  rw [outcome_unless] at done
  cases done
  exact ⟨_, _, rfl, rfl, rfl⟩

/-! ## Grants -/

theorem grantAdmin_cases {userId : UserId} {appId : AppId} {answer : Except Error Unit}
    (done : outcome (service.grantAdmin userId appId) world = (answer, later)) :
    (∃ error, answer = .error error ∧ later.stores = world.stores) ∨
      ∃ user app, world.stores.credentials.users[userId]? = some user ∧
        world.stores.credentials.apps[appId]? = some app ∧ answer = .ok () ∧
        later.stores = ⟨world.stores.credentials.setAdmin userId appId true, world.stores.tokens⟩ := by
  unfold Service.grantAdmin at done
  rw [Operation.outcome_bind, outcome_findUserById] at done
  rcases Operation.outcome_bind_cases done with
    ⟨error, failed, rfl⟩ | ⟨user, between, foundUser, withUser⟩
  · exact .inl ⟨error, rfl, congrArg World.stores (Operation.outcome_orFail_cases failed).1⟩
  obtain ⟨rfl, ⟨-, impossible⟩ | ⟨_, userStored, ⟨⟩⟩⟩ := Operation.outcome_orFail_cases foundUser
  · cases impossible
  rcases Operation.outcome_bind_cases withUser with
    ⟨error, failed, rfl⟩ | ⟨app, between, foundApp, withApp⟩
  · exact .inl ⟨error, rfl, congrArg World.stores (service.getApp_cases failed).1⟩
  obtain ⟨rfl, ⟨_, impossible⟩ | ⟨_, ⟨⟩, appStored⟩⟩ := service.getApp_cases foundApp
  · cases impossible
  rw [outcome_credentials] at withApp
  cases withApp
  exact .inr ⟨user, app, userStored, appStored, rfl, rfl⟩

theorem revokeAdmin_cases {userId : UserId} {appId : AppId} {answer : Except Error Bool}
    (done : outcome (service.revokeAdmin userId appId) world = (answer, later)) :
    ∃ found credentials, world.stores.credentials.removeAdmin userId appId = (found, credentials) ∧
      later.stores = ⟨credentials, world.stores.tokens⟩ ∧ answer = .ok found := by
  cases done
  exact ⟨_, _, rfl, rfl, rfl⟩

/-! ## Sessions -/

/-- The expiry of a refresh token that is issued at an instant. -/
def refreshDeadline? (now : Instant) : Option Instant :=
  service.auth.refreshTokenLifetime?.bind now.addSeconds?

/-- A session for a user and an app, as it is handed out. -/
def sessionFor (user : User) (app : App) (isAdmin : Bool) (refreshToken : String)
    (expiresAt : Int) : Session :=
  ⟨AccessToken.tokenOf service.primitives app.secret ⟨user.id, user.email, app.id, isAdmin, expiresAt⟩,
    refreshToken, expiresAt⟩

/-- The record under which a refresh token is stored. -/
def recordFor (user : User) (app : App) (refreshToken : String) (deadline : Instant) :
    NewRefreshToken :=
  ⟨service.tokenDigest refreshToken, user.id, app.id, deadline⟩

theorem outcome_issueSession (user : User) (app : App) (isAdmin : Bool) {expiresAt : Int}
    {deadline : Instant}
    (access : AccessToken.expiry? service.auth.accessTokenLifetime world.now = some expiresAt)
    (refresh : service.refreshDeadline? world.now = some deadline) :
    outcome (service.issueSession user app isAdmin) world =
      (.ok (service.sessionFor user app isAdmin world.nextText expiresAt,
          service.recordFor user app world.nextText deadline),
        (world.drawBytes randomTextLength).2) := by
  unfold refreshDeadline? at refresh
  simp only [issueSession, AccessToken.issue, access, refresh, Operation.outcome_bind,
    Operation.outcome_now, Operation.outcome_result, Operation.outcome_orFail_some, outcome_randomText,
    Operation.outcome_pure]
  rfl

/-- A refresh token under a new digest is stored, and no other one is touched. -/
theorem create_cases {record : NewRefreshToken} {answer : Except Error Unit}
    (done : outcome (service.tokens (.create record)) world = (answer, later)) :
    later.stores.credentials = world.stores.credentials ∧ later.draws = world.draws ∧
      (world.record? record.digest = none -> answer = .ok () ∧ forall digest, later.record? digest =
        if record.digest = digest then
          some ⟨record.digest, record.userId, record.appId, record.expiresAt, world.now⟩
        else world.record? digest) := by
  rw [outcome_tokens] at done
  cases done
  refine ⟨rfl, rfl, fun free => ⟨?_, fun digest => ?_⟩⟩
  · exact congrArg Prod.fst (world.stores.tokens.create_of_none world.now record free)
  · refine (world.stores.tokens.getElem?_answer world.now (.create record) digest).trans ?_
    by_cases same : record.digest = digest
    · subst same
      rw [if_pos rfl]
      refine (congrArg (TokenCall.effect world.now record.digest (.create record)) free).trans ?_
      exact if_pos rfl
    · rw [if_neg same]
      show TokenCall.effect _ _ _ (world.record? digest) = _
      cases world.record? digest with
      | none => exact if_neg same
      | some other => rfl

/-- A login that does not find what it looks for leaves everything as it is.
Any other draws a refresh token, and opens a session if that token is new. -/
theorem login_cases {email password : String} {appId : AppId} {answer : Except Error Session}
    {expiresAt : Int} {deadline : Instant}
    (done : outcome (service.login email password appId) world = (answer, later))
    (access : AccessToken.expiry? service.auth.accessTokenLifetime world.now = some expiresAt)
    (refresh : service.refreshDeadline? world.now = some deadline) :
    (answer = .error .invalidCredentials ∧ later = world) ∨
      ∃ user app, world.stores.credentials.findUserByEmail email = some user ∧
        Password.verify service.primitives password user.passwordHash = true ∧
        world.stores.credentials.apps[appId]? = some app ∧ app.enabled = true ∧
        later.stores.credentials = world.stores.credentials ∧ later.draws = world.draws + 1 ∧
        (world.record? (service.tokenDigest world.nextText) = none ->
          answer = .ok (service.sessionFor user app (world.stores.credentials.isAdmin user.id app.id)
            world.nextText expiresAt) ∧
          forall digest, later.record? digest =
            if service.tokenDigest world.nextText = digest then
              some ⟨service.tokenDigest world.nextText, user.id, app.id, deadline, world.now⟩
            else (world.record? digest).filter fun record =>
              !(record.userId == user.id && record.appId == app.id)) := by
  unfold Service.login at done
  rw [Operation.outcome_bind, outcome_findUserByEmail] at done
  dsimp only at done
  cases found : world.stores.credentials.findUserByEmail email with
  | none =>
    rw [found] at done
    cases done
    exact .inl ⟨rfl, rfl⟩
  | some user =>
    rw [found] at done
    dsimp only at done
    split at done
    · cases done
      exact .inl ⟨rfl, rfl⟩
    next verified =>
    rw [Operation.outcome_bind, outcome_activeApp] at done
    dsimp only at done
    cases active : (world.stores.credentials.apps[appId]?).filter fun app => app.enabled with
    | none =>
      rw [active] at done
      cases done
      exact .inl ⟨rfl, rfl⟩
    | some app =>
      rw [active] at done
      dsimp only at done
      rw [Operation.outcome_bind, outcome_isAdmin] at done
      dsimp only at done
      rw [Operation.outcome_bind, service.outcome_issueSession user app _ access refresh] at done
      dsimp only at done
      rw [Operation.outcome_bind, outcome_tokens] at done
      dsimp only [TokenStore.answer] at done
      obtain ⟨stored, enabled⟩ := Option.filter_eq_some_iff.mp active
      rw [Bool.not_eq_true', Bool.not_eq_false] at verified
      have cleared (digest : String) :=
        world.stores.tokens.getElem?_answer world.now (.deleteByOwner user.id app.id) digest
      have free (new : world.record? (service.tokenDigest world.nextText) = none) :
          (world.stores.tokens.answer world.now (.deleteByOwner user.id app.id)).2.tokens[
            service.tokenDigest world.nextText]? = none := by
        rw [cleared]
        exact congrArg (TokenCall.effect _ _ _) new
      refine .inr ⟨user, app, rfl, verified, stored, enabled, ?_⟩
      rcases Operation.outcome_bind_cases done with
        ⟨error, failed, rfl⟩ | ⟨_, between, created, returned⟩
      · obtain ⟨credentials, draws, placed⟩ := service.create_cases failed
        exact ⟨credentials, draws, fun new => nomatch (placed (free new)).1⟩
      · obtain ⟨credentials, draws, placed⟩ := service.create_cases created
        cases returned
        refine ⟨credentials, draws, fun new => ⟨rfl, fun digest => ?_⟩⟩
        rw [(placed (free new)).2 digest]
        exact ite_congr rfl (fun _ => rfl) fun _ => cleared digest

theorem logout_cases {token : String} {answer : Except Error Bool}
    (done : outcome (service.logout token) world = (answer, later)) :
    later.stores.credentials = world.stores.credentials ∧
      forall digest, later.record? digest =
        if service.tokenDigest token = digest then none else world.record? digest := by
  unfold Service.logout at done
  rw [Operation.outcome_bind, outcome_tokens] at done
  cases done
  exact ⟨rfl, world.stores.tokens.getElem?_deleteByToken (service.tokenDigest token)⟩

theorem sweep_cases {answer : Except Error Nat}
    (done : outcome service.sweep world = (answer, later)) :
    later.stores.credentials = world.stores.credentials ∧
      forall digest, later.record? digest =
        (world.record? digest).filter fun record => !record.isExpiredAt world.now := by
  unfold Service.sweep at done
  rw [Operation.outcome_bind, Operation.outcome_now] at done
  dsimp only at done
  rw [outcome_tokens] at done
  cases done
  exact ⟨rfl, world.stores.tokens.getElem?_deleteWhere _⟩

/-! ### Refreshing

What a refresh comes to depends on the record of the presented token. -/

section

variable {token : String}

theorem outcome_refresh_of_unknown (unknown : world.record? (service.tokenDigest token) = none) :
    outcome (service.refresh token) world = (.error .invalidCredentials, world) := by
  unfold Service.refresh
  rw [Operation.outcome_bind, outcome_tokens]
  dsimp only [TokenStore.answer]
  unfold World.record? at unknown
  rw [unknown]
  rfl

variable {stored : RefreshToken} (known : world.record? (service.tokenDigest token) = some stored)

include known

theorem outcome_refresh_of_expired (expired : stored.isExpiredAt world.now = true) :
    outcome (service.refresh token) world =
      (.error .invalidCredentials,
       (world.answer (.tokens (.deleteByToken (service.tokenDigest token)))).2) := by
  unfold Service.refresh
  rw [Operation.outcome_bind, outcome_tokens]
  dsimp only [TokenStore.answer]
  unfold World.record? at known
  rw [known]
  dsimp only
  rw [Operation.outcome_bind, Operation.outcome_now]
  dsimp only [World.withTokens]
  rw [if_pos expired]
  rfl

theorem outcome_refresh_of_inactive (good : stored.isExpiredAt world.now = false)
    (inactive : world.stores.credentials.users[stored.userId]? = none ∨
      ((world.stores.credentials.apps[stored.appId]?).filter fun app => app.enabled) = none) :
    outcome (service.refresh token) world = (.error .invalidCredentials, world) := by
  unfold Service.refresh
  rw [Operation.outcome_bind, outcome_tokens]
  dsimp only [TokenStore.answer]
  unfold World.record? at known
  rw [known]
  dsimp only
  rw [Operation.outcome_bind, Operation.outcome_now]
  dsimp only [World.withTokens]
  rw [if_neg (Bool.not_eq_true _ ▸ good), Operation.outcome_bind, outcome_findUserById]
  dsimp only
  cases found : world.stores.credentials.users[stored.userId]? with
  | none => rfl
  | some user =>
    rcases inactive with absent | inactive
    · rw [found] at absent
      cases absent
    dsimp only
    rw [Operation.outcome_bind, outcome_activeApp]
    dsimp only
    rw [inactive]
    rfl

/-- The new token is stored and the old one deleted, whatever the store holds otherwise. -/
theorem refresh_cases_of_active {answer : Except Error Session} {user : User} {app : App}
    {expiresAt : Int} {deadline : Instant}
    (done : outcome (service.refresh token) world = (answer, later))
    (good : stored.isExpiredAt world.now = false)
    (foundUser : world.stores.credentials.users[stored.userId]? = some user)
    (foundApp : world.stores.credentials.apps[stored.appId]? = some app)
    (enabled : app.enabled = true)
    (access : AccessToken.expiry? service.auth.accessTokenLifetime world.now = some expiresAt)
    (refresh : service.refreshDeadline? world.now = some deadline) :
    later.stores.credentials = world.stores.credentials ∧ later.draws = world.draws + 1 ∧
      (world.record? (service.tokenDigest world.nextText) = none ->
        answer = .ok (service.sessionFor user app (world.stores.credentials.isAdmin user.id app.id)
          world.nextText expiresAt) ∧
        forall digest, later.record? digest =
          if service.tokenDigest token = digest then none
          else if service.tokenDigest world.nextText = digest then
            some ⟨service.tokenDigest world.nextText, user.id, app.id, deadline, world.now⟩
          else world.record? digest) := by
  unfold Service.refresh at done
  rw [Operation.outcome_bind, outcome_tokens] at done
  dsimp only [TokenStore.answer] at done
  have presented := known
  unfold World.record? at presented
  rw [presented] at done
  dsimp only at done
  rw [Operation.outcome_bind, Operation.outcome_now] at done
  dsimp only [World.withTokens] at done
  rw [if_neg (Bool.not_eq_true _ ▸ good), Operation.outcome_bind, outcome_findUserById] at done
  dsimp only at done
  rw [foundUser] at done
  dsimp only at done
  rw [Operation.outcome_bind, outcome_activeApp] at done
  dsimp only at done
  rw [foundApp, Option.filter_some_pos enabled] at done
  dsimp only at done
  rw [Operation.outcome_bind, outcome_isAdmin] at done
  dsimp only at done
  rw [Operation.outcome_bind, service.outcome_issueSession user app _ access refresh] at done
  dsimp only at done
  rcases Operation.outcome_bind_cases done with ⟨error, failed, rfl⟩ | ⟨_, between, created, rest⟩
  · obtain ⟨credentials, draws, placed⟩ := service.create_cases failed
    exact ⟨credentials, draws, fun new => nomatch (placed new).1⟩
  · obtain ⟨credentials, draws, placed⟩ := service.create_cases created
    have replied : (between.answer (.tokens (.deleteByToken (service.tokenDigest token)))).1 =
        .ok (if (between.record? (service.tokenDigest token)).isSome then 1 else 0) :=
      Option.some.inj (between.deleteByToken_reply (service.tokenDigest token) .carriedOut)
    dsimp only [attempt] at rest
    rw [Operation.outcome_bind, Operation.outcome_attempt, replied] at rest
    by_cases there : (between.record? (service.tokenDigest token)).isSome = true
    · rw [if_pos there] at rest
      cases rest
      refine ⟨credentials, draws, fun new => ⟨rfl, fun digest => ?_⟩⟩
      refine (between.record?_answer (.tokens (.deleteByToken (service.tokenDigest token))) digest).trans ?_
      exact ite_congr rfl (fun _ => rfl) fun _ => (placed new).2 digest
    · rw [if_neg there] at rest
      cases rest
      refine ⟨credentials, draws, fun new => absurd ?_ there⟩
      rw [(placed new).2]
      split
      · rfl
      · exact congrArg Option.isSome known

end

end Service

end SingleSignOn

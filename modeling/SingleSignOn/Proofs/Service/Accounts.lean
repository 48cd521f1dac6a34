import SingleSignOn.Proofs.Service.Outcome

namespace SingleSignOn

/-!
# Emails and passwords

What a registration and an update write, when they succeed: the email as it
was given, and a hash of the password as it was given, neither of them empty.
No other call changes a user but a deletion.  And what decides a login: the
user who shows the email, and the hash of that user.
-/

namespace CredentialStore

variable {store later : CredentialStore}

/-- A call that is not about users leaves them as they are. -/
theorem users_answer (now : Instant) {call : CredentialCall} (created : forall user, call ≠ .createUser user)
    (updated : forall id update, call ≠ .updateUser id update) (deleted : forall id, call ≠ .deleteUser id) :
    (store.answer now call).2.users = store.users := by
  cases call with
  | createUser user => exact absurd rfl (created user)
  | updateUser id update => exact absurd rfl (updated id update)
  | deleteUser id => exact absurd rfl (deleted id)
  | createApp app =>
    simp only [answer, createApp]
    split <;> rfl
  | updateApp id update =>
    simp only [answer, updateApp]
    repeat' split
    all_goals rfl
  | deleteApp id =>
    simp only [answer, deleteApp]
    split <;> rfl
  | setAppEnabled id enabled =>
    simp only [answer, setAppEnabled]
    split <;> rfl
  | _ => rfl

theorem createUser_ok {now : Instant} {new : NewUser} {user : User}
    (created : store.createUser now new = (.ok user, later)) :
    user = ⟨store.userCount + 1, new.email, new.passwordHash, new.profile, now⟩ ∧
      later.users = store.users.insert user.id user := by
  unfold createUser at created
  split at created
  · cases created
  · cases created
    exact ⟨rfl, rfl⟩

theorem updateUser_ok {id : UserId} {update : UserUpdate} {user : User}
    (updated : store.updateUser id update = (.ok (some user), later)) :
    ∃ old, store.users[id]? = some old ∧ user = update.applyTo old ∧ later.users = store.users.insert id user := by
  unfold updateUser at updated
  cases stored : store.users[id]? with
  | none =>
    rw [stored] at updated
    cases updated
  | some old =>
    rw [stored] at updated
    dsimp only at updated
    refine ⟨old, rfl, ?_⟩
    split at updated
    · cases updated
      exact ⟨rfl, rfl⟩
    split at updated
    · cases updated
    · cases updated
      exact ⟨rfl, rfl⟩

theorem deleteUser_found {id : UserId} (deleted : store.deleteUser id = (true, later)) :
    later.users = store.users.erase id := by
  unfold deleteUser at deleted
  split at deleted
  · cases deleted
  · cases deleted
    rfl

end CredentialStore

namespace Service

open Operation (outcome)

variable (service : Service) {world later : World}

/-! ## Writing -/

/-- The hash of a new password, under the salt that is drawn next. -/
def nextHash (world : World) (password : String) : String :=
  Password.hash service.primitives service.cost (world.drawBytes Password.saltLength).1 password

theorem register_ok {email password : String} {profile : Profile} {userId : UserId}
    (done : outcome (service.register email password profile) world = (.ok userId, later)) :
    Text.isBlank email = false ∧ password.isEmpty = false ∧
      ∃ user, user.id = userId ∧ world.stores.credentials.createUser world.now
        ⟨email, service.nextHash world password, profile⟩ = (.ok user, later.stores.credentials) := by
  unfold Service.register at done
  dsimp only at done
  split at done
  · cases done
  next filled =>
  split at done
  · cases done
  next given =>
  rw [Operation.outcome_bind, outcome_hashPassword] at done
  rcases Operation.outcome_bind_cases done with ⟨error, _, impossible⟩ | ⟨user, between, created, returned⟩
  · cases impossible
  obtain ⟨credentials, rfl, called⟩ := service.credentials_answered created
  cases returned
  exact ⟨Bool.not_eq_true _ ▸ filled, Bool.not_eq_true _ ▸ given, user, rfl, called⟩

/-- An update that succeeds either changes nothing or is written as it was asked for. -/
theorem updateUser_ok {userId : UserId} {change : ProfileChange} {user : User}
    (done : outcome (service.updateUser userId change) world = (.ok user, later)) :
    change.email.any Text.isBlank = false ∧ change.password.any String.isEmpty = false ∧
      ((later.stores = world.stores ∧ change.email = none ∧ change.password = none) ∨
        world.stores.credentials.updateUser userId
            ⟨change.email, change.password.map (service.nextHash world), change.profile⟩ =
          (.ok (some user), later.stores.credentials)) := by
  unfold Service.updateUser at done
  dsimp only at done
  split at done
  · cases done
  next filled =>
  split at done
  · cases done
  next given =>
  refine ⟨Bool.not_eq_true _ ▸ filled, Bool.not_eq_true _ ▸ given, ?_⟩
  cases renewed : change.password with
  | none =>
    rw [renewed] at done
    rcases service.applyUpdate_cases ⟨change.email, none, change.profile⟩ done with
      ⟨error, impossible, _⟩ | ⟨_, _, same, empty⟩ | ⟨_, credentials, answered, called, stores⟩
    · cases impossible
    · simp only [UserUpdate.isEmpty, Bool.and_eq_true, Option.isNone_iff_eq_none] at empty
      exact .inl ⟨same, empty.1.1, rfl⟩
    · cases answered
      rw [stores]
      exact .inr called
  | some password =>
    rw [renewed] at done
    dsimp only at done
    rw [Operation.outcome_bind, outcome_hashPassword] at done
    rcases service.applyUpdate_cases ⟨change.email, some _, change.profile⟩ done with
      ⟨error, impossible, _⟩ | ⟨_, _, _, empty⟩ | ⟨_, credentials, answered, called, stores⟩
    · cases impossible
    · simp only [UserUpdate.isEmpty, Option.isNone_some, Bool.and_false, Bool.false_and] at empty
      cases empty
    · cases answered
      rw [stores]
      exact .inr called

/-! ## Logging in -/

variable {email password : String} {appId : AppId}

theorem outcome_login_of_unknown (unknown : world.stores.credentials.findUserByEmail email = none) :
    outcome (service.login email password appId) world = (.error .invalidCredentials, world) := by
  unfold Service.login
  rw [Operation.outcome_bind, outcome_findUserByEmail]
  dsimp only
  rw [unknown]
  rfl

variable {user : User} (known : world.stores.credentials.findUserByEmail email = some user)

include known

theorem outcome_login_of_mismatch
    (mismatch : Password.verify service.primitives password user.passwordHash = false) :
    outcome (service.login email password appId) world = (.error .invalidCredentials, world) := by
  unfold Service.login
  rw [Operation.outcome_bind, outcome_findUserByEmail]
  dsimp only
  rw [known]
  dsimp only
  rw [mismatch]
  rfl

/-- A login with the password of the user opens a session, provided that its refresh token is new. -/
theorem outcome_login_of_known
    (verified : Password.verify service.primitives password user.passwordHash = true) {app : App}
    (stored : world.stores.credentials.apps[appId]? = some app) (enabled : app.enabled = true)
    {expiresAt : Int} {deadline : Instant}
    (access : AccessToken.expiry? service.auth.accessTokenLifetime world.now = some expiresAt)
    (refresh : service.refreshDeadline? world.now = some deadline)
    (new : world.record? (service.tokenDigest world.nextText) = none) :
    ∃ later, outcome (service.login email password appId) world =
      (.ok (service.sessionFor user app (world.stores.credentials.isAdmin user.id app.id) world.nextText expiresAt),
        later) := by
  have found : outcome (service.credentials (.findUserByEmail email)) world = (.ok (some user), world) := by
    rw [outcome_findUserByEmail, known]
  have active : outcome (service.activeApp appId) world = (.ok (some app), world) := by
    rw [outcome_activeApp, stored, Option.filter_some_pos enabled]
  have issued := service.outcome_issueSession user app (world.stores.credentials.isAdmin user.id app.id) access refresh
  -- What is still stored was stored before.
  have free : (world.stores.tokens.answer world.now (.deleteByOwner user.id app.id)).2.tokens[
      service.tokenDigest world.nextText]? = none := by
    rw [TokenStore.getElem?_answer]
    exact congrArg (TokenCall.effect _ _ _) new
  rcases created : outcome (service.tokens (.create (service.recordFor user app world.nextText deadline)))
    ((world.drawBytes randomTextLength).2.withTokens
      (world.stores.tokens.answer world.now (.deleteByOwner user.id app.id)).2) with ⟨answer, final⟩
  rcases service.create_cases created with ⟨_, _, placed⟩
  rw [(placed free).1] at created
  unfold Service.login
  rw [Operation.outcome_bind_of_ok found]
  dsimp only
  rw [verified, if_neg (by decide), Operation.outcome_bind_of_ok active]
  dsimp only
  rw [Operation.outcome_bind_of_ok (service.outcome_isAdmin _ _ _), Operation.outcome_bind_of_ok issued,
    Operation.outcome_bind_of_ok (service.outcome_tokens (.deleteByOwner user.id app.id) _)]
  exact ⟨final, Operation.outcome_bind_of_ok created _⟩

end Service

end SingleSignOn

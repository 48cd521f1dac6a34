import SingleSignOn.Proofs.AccessToken.Lifetime
import SingleSignOn.Proofs.Api.Endpoints
import SingleSignOn.Proofs.History.Serving
import SingleSignOn.Proofs.Password.RoundTrip
import SingleSignOn.Proofs.Service.Accounts

namespace SingleSignOn

/-!
# The current credentials always work

By the answers of a run alone, a user has the email and the password that
were given last.  These open a session for every enabled app.  Nothing else
opens one: an email that nobody has is rejected, and so is a password that is
not hashed to what is stored.

An update that is rejected changes nothing, and one that succeeds is written
as a whole, so an account never has one half of a change.
-/

/-- What a user signs in with. -/
structure Account where
  email : String
  password : String
  deriving DecidableEq, Repr

/-- The account after a change that its user asked for. -/
def Account.after (account : Account) (change : ProfileChange) : Account :=
  ⟨change.email.getD account.email, change.password.getD account.password⟩

theorem Account.after_nothing {account : Account} {change : ProfileChange} (email : change.email = none)
    (password : change.password = none) : account.after change = account := by
  rw [Account.after, email, password]
  rfl

/-- The account of a user after a call. -/
def Answered.accountAfter (userId : UserId) (before : Option Account) : Answered -> Option Account
  | ⟨.register email password _, .ok registered, _⟩ =>
    if registered = userId then some ⟨email, password⟩ else before
  | ⟨.updateUser changed change, .ok _, _⟩ =>
    if changed = userId then before.map fun account => account.after change else before
  | ⟨.deleteUser deleted, .ok _, _⟩ => if deleted = userId then none else before
  | _ => before

/-- The account of a user by the answers so far: the email and the password
that were given last, unless the user was deleted or never registered. -/
def accountOf? (history : List Answered) (userId : UserId) : Option Account :=
  history.foldl (Answered.accountAfter userId) none

theorem accountOf?_append_singleton (history : List Answered) (entry : Answered) (userId : UserId) :
    accountOf? (history ++ [entry]) userId = entry.accountAfter userId (accountOf? history userId) := by
  rw [accountOf?, List.foldl_append]
  rfl

/-- A call that fails leaves every account as it is. -/
theorem Answered.accountAfter_of_error (userId : UserId) (before : Option Account) (call : ServiceCall)
    (error : Error) (instant : Instant) : accountAfter userId before ⟨call, .error error, instant⟩ = before := by
  cases call <;> rfl

/-! ## What is stored for an account -/

/-- Whether a call writes users. -/
def ServiceCall.writesUsers : ServiceCall -> Bool
  | .register _ _ _ => true
  | .updateUser _ _ => true
  | .deleteUser _ => true
  | _ => false

/-- A stored user shows the email of an account, and the hash of its password under some salt. -/
structure Service.Keeps (service : Service) (account : Account) (user : User) : Prop where
  email_eq : user.email = account.email
  email_filled : Text.isBlank account.email = false
  password_filled : account.password.isEmpty = false
  hash_eq : ∃ salt : Bytes, salt.length = Password.saltLength ∧
    user.passwordHash = Password.hash service.primitives service.cost salt account.password

namespace Service

variable {service : Service} {world later : World}

/-- A change is kept as it was asked for. -/
theorem Keeps.after {account : Account} {user : User} (keeps : service.Keeps account user)
    {change : ProfileChange} (email : change.email.any Text.isBlank = false)
    (password : change.password.any String.isEmpty = false)
    (random : (world.drawBytes Password.saltLength).1.length = Password.saltLength) :
    service.Keeps (account.after change)
      ((⟨change.email, change.password.map (service.nextHash world), change.profile⟩ : UserUpdate).applyTo user) := by
  rcases change with ⟨newEmail, newPassword, newProfile⟩
  constructor
  · cases newEmail with
    | none => exact keeps.email_eq
    | some given => rfl
  · cases newEmail with
    | none => exact keeps.email_filled
    | some given => exact email
  · cases newPassword with
    | none => exact keeps.password_filled
    | some given => exact password
  · cases newPassword with
    | none => exact keeps.hash_eq
    | some given => exact ⟨_, random, rfl⟩

theorem users_of_other {call : ServiceCall} {answer : Except Error call.Reply}
    (other : call.writesUsers = false)
    (done : Operation.outcome (service.operation call) world = (answer, later)) :
    later.stores.credentials.users = world.stores.credentials.users := by
  refine outcome_preserves (·.credentials.users = world.stores.credentials.users)
    (fun stores now request makes same => ?_) rfl done
  cases request with
  | tokens request => exact same
  | credentials request =>
    refine (CredentialStore.users_answer now ?_ ?_ ?_).trans same
    · rintro user rfl
      cases makes
      cases other
    · rintro id update rfl
      cases makes
      cases other
    · rintro id rfl
      cases makes
      cases other

theorem users_of_error {call : ServiceCall} {error : Error}
    (done : Operation.outcome (service.operation call) world = (.error error, later)) :
    later.stores.credentials.users = world.stores.credentials.users := by
  cases call with
  | register email password profile =>
    rcases service.register_cases done with ⟨_, _, same⟩ | ⟨_, _, _, impossible, _⟩
    · rw [same]
    · cases impossible
  | updateUser userId change =>
    rcases service.updateUser_cases done with ⟨_, _, same⟩ | ⟨_, impossible, _⟩ | ⟨_, _, _, impossible, _⟩
    · rw [same]
    · cases impossible
    · cases impossible
  | deleteUser userId =>
    rcases service.deleteUser_cases done with ⟨found, credentials, deleted, stores, answered⟩
    cases found with
    | true => cases answered
    | false => rw [stores, (CredentialStore.deleteUser_of_absent deleted).1]
  | _ => exact users_of_other rfl done

end Service

/-- The answers so far tell the email and the password of every user that is stored, and of no other. -/
structure KnowsAccounts (service : Service) (history : List Answered) (world : World) : Prop where
  sound : world.stores.credentials.IsSound
  users : forall userId : UserId,
    Option.Rel service.Keeps (accountOf? history userId) world.stores.credentials.users[userId]?
  random : forall number count, (world.entropy number count).length = count

namespace KnowsAccounts

variable {service : Service} {history : List Answered} {world later : World}

theorem start (empty : world.stores = .empty)
    (random : forall number count, (world.entropy number count).length = count) :
    KnowsAccounts service [] world := by
  refine ⟨?_, fun userId => ?_, random⟩
  · rw [empty]
    exact CredentialStore.isSound_empty
  · rw [empty]
    exact .none

/-- The clock may show anything. -/
theorem setClock (knows : KnowsAccounts service history world) (now : Instant) :
    KnowsAccounts service history { world with now := now } :=
  ⟨knows.sound, knows.users, knows.random⟩

section

variable (knows : KnowsAccounts service history world)

include knows

theorem users_note {call : ServiceCall} {answer : Except Error call.Reply}
    (done : Operation.outcome (service.operation call) world = (answer, later)) (instant : Instant)
    (userId : UserId) :
    Option.Rel service.Keeps
      (Answered.accountAfter userId (accountOf? history userId) ⟨call, answer, instant⟩)
      later.stores.credentials.users[userId]? := by
  cases answer with
  | error error =>
    rw [Answered.accountAfter_of_error, Service.users_of_error done]
    exact knows.users userId
  | ok value =>
    cases call with
    | register email password profile =>
      rcases service.register_ok done with ⟨emailFilled, passwordFilled, user, rfl, created⟩
      rcases CredentialStore.createUser_ok created with ⟨shown, users⟩
      rw [users, Table.getElem?_insert]
      show Option.Rel _ (if user.id = userId then _ else _) _
      split
      · exact .some ⟨congrArg User.email shown, emailFilled, passwordFilled,
          (world.drawBytes Password.saltLength).1, knows.random _ _, congrArg User.passwordHash shown⟩
      · exact knows.users userId
    | updateUser changed change =>
      rcases service.updateUser_ok done with ⟨email, password, ⟨same, noEmail, noPassword⟩ | updated⟩
      · show Option.Rel _ (if changed = userId then _ else _) _
        simp only [Account.after_nothing noEmail noPassword, Option.map_id', ite_self, same]
        exact knows.users userId
      · rcases CredentialStore.updateUser_ok updated with ⟨old, stored, rfl, users⟩
        rw [users, Table.getElem?_insert]
        show Option.Rel _ (if changed = userId then _ else _) _
        split
        next same =>
          subst same
          have before := knows.users changed
          rw [stored] at before
          cases kept : accountOf? history changed with
          | none =>
            rw [kept] at before
            cases before
          | some account =>
            rw [kept] at before
            cases before with
            | some keeps => exact .some (keeps.after email password (knows.random _ _))
        next => exact knows.users userId
    | deleteUser deleted =>
      rcases service.deleteUser_cases done with ⟨found, credentials, removed, stores, answered⟩
      cases found with
      | false => cases answered
      | true =>
        rw [stores, CredentialStore.deleteUser_found removed, Table.getElem?_erase]
        show Option.Rel _ (if deleted = userId then _ else _) _
        split
        · exact .none
        · exact knows.users userId
    | _ =>
      rw [Service.users_of_other rfl done]
      exact knows.users userId

theorem note {call : ServiceCall} {answer : Except Error call.Reply}
    (done : Operation.outcome (service.operation call) world = (answer, later)) (instant : Instant) :
    KnowsAccounts service (history ++ [⟨call, answer, instant⟩]) later := by
  refine ⟨Service.isSound_outcome knows.sound done, fun userId => ?_, ?_⟩
  · rw [accountOf?_append_singleton]
    exact knows.users_note done instant userId
  · rw [(Operation.frame_of_outcome done).2.1]
    exact knows.random

end

theorem serve {requests : List Request} (smooth : ∀ request ∈ requests, request.IsSmooth)
    (empty : world.stores = .empty)
    (random : forall number count, (world.entropy number count).length = count) :
    KnowsAccounts service (service.serve world requests).1 (service.serve world requests).2 :=
  Service.serve_induction (fun _ _ _ now _ _ knows done => (knows.setClock now).note done now) smooth
    (start empty random)

section

variable (knows : KnowsAccounts service history world) {userId : UserId}

include knows

theorem user_of_account {account : Account} (given : accountOf? history userId = some account) :
    ∃ user, world.stores.credentials.users[userId]? = some user ∧ service.Keeps account user := by
  have related := knows.users userId
  rw [given] at related
  cases stored : world.stores.credentials.users[userId]? with
  | none =>
    rw [stored] at related
    cases related
  | some user =>
    rw [stored] at related
    cases related with
    | some keeps => exact ⟨user, rfl, keeps⟩

theorem account_of_user {user : User} (stored : world.stores.credentials.users[userId]? = some user) :
    ∃ account, accountOf? history userId = some account ∧ service.Keeps account user := by
  have related := knows.users userId
  rw [stored] at related
  cases given : accountOf? history userId with
  | none =>
    rw [given] at related
    cases related
  | some account =>
    rw [given] at related
    cases related with
    | some keeps => exact ⟨account, rfl, keeps⟩

theorem findUserByEmail_eq {account : Account} (given : accountOf? history userId = some account) :
    ∃ user, user.id = userId ∧ world.stores.credentials.findUserByEmail account.email = some user ∧
      service.Keeps account user := by
  rcases knows.user_of_account given with ⟨user, stored, keeps⟩
  obtain rfl : user.id = userId := knows.sound.users userId user stored
  exact ⟨user, rfl, (knows.sound.findUserByEmail_eq_some_iff _ user).mpr ⟨stored, keeps.email_eq⟩, keeps⟩

end

end KnowsAccounts

/-! ## What a login comes to -/

/-- What a login comes to agrees with the accounts by the answers so far. -/
structure AdmitsAccounts (service : Service) (history : List Answered) (world : World) : Prop where
  /-- The users that there are have an account, and nobody else has one. -/
  present : forall userId, (accountOf? history userId).isSome = true ↔ world.stores.credentials.HasUser userId
  /-- No two users have one email. -/
  distinct : forall first second account other, accountOf? history first = some account ->
    accountOf? history second = some other -> account.email = other.email -> first = second
  /-- With the account of a user a session is opened for the user and any enabled
  app, if its expiries can be represented and its refresh token is a new one. -/
  admits : forall userId account (app : App), accountOf? history userId = some account ->
    world.stores.credentials.apps[app.id]? = some app -> app.enabled = true -> service.CanIssueAt world.now ->
    world.record? (service.tokenDigest world.nextText) = none ->
      ∃ session later,
        Operation.outcome (service.login account.email account.password app.id) world = (.ok session, later) ∧
        session.accessToken = AccessToken.tokenOf service.primitives app.secret
          ⟨userId, account.email, app.id, world.stores.credentials.isAdmin userId app.id, session.expiresAt⟩
  /-- Over HTTP such a login is not turned away for what it says, but answered as the service does. -/
  response : forall request userId account (app : App), accountOf? history userId = some account ->
    world.stores.credentials.apps[app.id]? = some app ->
    Http.Request.AsksLogin request ⟨account.email, account.password, app.id⟩ ->
      (Api.answerPublic service request).run world =
        (Http.Response.ofAnswer (fun session => .ofJson 200 (Api.sessionView session))
            (Operation.outcome (service.login account.email account.password app.id) world).1,
          (Operation.outcome (service.login account.email account.password app.id) world).2)
  /-- A session is opened only for whoever has the email, and only with a
  password from which the stored run of the password hash gives the stored hash. -/
  onlyHolder : forall email password appId session later,
    Operation.outcome (service.login email password appId) world = (.ok session, later) ->
      ∃ userId account user, ∃ app : App, accountOf? history userId = some account ∧ account.email = email ∧
        world.stores.credentials.users[userId]? = some user ∧
        (∃ request expected, (Password.StoredHash.parse? user.passwordHash).bind Password.StoredHash.request? =
          some (request, expected) ∧ service.primitives.derive request (Bytes.ofString password) = expected) ∧
        session.accessToken = AccessToken.tokenOf service.primitives app.secret
          ⟨userId, email, appId, world.stores.credentials.isAdmin userId appId, session.expiresAt⟩
  /-- An email that nobody has is rejected. -/
  rejects : forall email, (forall userId account, accountOf? history userId = some account ->
    account.email ≠ email) -> forall password appId,
      Operation.outcome (service.login email password appId) world = (.error .invalidCredentials, world)

namespace Service

variable {service : Service} {world later : World}

theorem Keeps.verify {account : Account} {user : User} (keeps : service.Keeps account user)
    (sized : service.primitives.IsSized) (usable : service.cost.IsUsable) :
    Password.verify service.primitives account.password user.passwordHash = true := by
  rcases keeps.hash_eq with ⟨salt, salted, hashed⟩
  rw [hashed, Password.verify_hash sized usable salted]
  exact beq_self_eq_true _

/-- A login that succeeds has found the user of the email and verified the password. -/
theorem login_ok {email password : String} {appId : AppId} {session : Session}
    (sound : world.stores.credentials.IsSound)
    (done : Operation.outcome (service.login email password appId) world = (.ok session, later)) :
    ∃ user app, world.stores.credentials.users[user.id]? = some user ∧ user.email = email ∧ app.id = appId ∧
      Password.verify service.primitives password user.passwordHash = true ∧
      service.Opens world user app session := by
  have asked : Operation.outcome (service.operation (.login email password appId)) { world with now := world.now } =
      (.ok session, later) := done
  rcases opens_of_respond sound (respond_of_outcome asked) rfl with ⟨user, app, parties, stored, opens⟩
  rcases Option.map_eq_some_iff.mp parties with ⟨_, found, same⟩
  cases same
  refine ⟨user, app, stored, ((sound.findUserByEmail_eq_some_iff email user).mp found).2, rfl, ?_, opens⟩
  cases verified : Password.verify service.primitives password user.passwordHash with
  | true => rfl
  | false =>
    rw [service.outcome_login_of_mismatch found verified] at done
    cases done

end Service

namespace KnowsAccounts

variable {service : Service} {history : List Answered} {world : World}

theorem admitsAccounts (knows : KnowsAccounts service history world) (sized : service.primitives.IsSized)
    (usable : service.cost.IsUsable) : AdmitsAccounts service history world where
  present userId := by
    constructor
    · intro given
      rcases Option.isSome_iff_exists.mp given with ⟨account, given⟩
      rcases knows.user_of_account given with ⟨user, stored, _⟩
      exact ⟨user, stored, knows.sound.users userId user stored⟩
    · rintro ⟨user, stored, _⟩
      rcases knows.account_of_user stored with ⟨account, given, _⟩
      rw [given]
      rfl
  distinct first second account other given taken same := by
    rcases knows.user_of_account given with ⟨user, stored, keeps⟩
    rcases knows.user_of_account taken with ⟨user', stored', keeps'⟩
    refine knows.sound.emails.eq_of_keyOf_eq stored stored' ?_
    rw [keeps.email_eq, keeps'.email_eq, same]
  admits userId account app given stored enabled issues new := by
    rcases knows.findUserByEmail_eq given with ⟨user, rfl, found, keeps⟩
    rcases Option.isSome_iff_exists.mp issues.1 with ⟨expiresAt, access⟩
    rcases Option.isSome_iff_exists.mp issues.2 with ⟨deadline, refresh⟩
    rcases service.outcome_login_of_known found (keeps.verify sized usable) stored enabled access refresh new with
      ⟨later, opened⟩
    refine ⟨_, later, opened, ?_⟩
    rw [← keeps.email_eq]
    rfl
  response request userId account app given stored asks := by
    rcases knows.user_of_account given with ⟨user, _, keeps⟩
    have named : app.id ≠ 0 := (Int.ne_of_lt (knows.sound.appIds app.id app stored).1).symm
    have complete : Api.missingFromLogin? ⟨account.email, account.password, app.id⟩ = none := by
      simp only [Api.missingFromLogin?, keeps.email_filled, keeps.password_filled, Bool.false_eq_true, if_false,
        if_neg named]
    rw [Api.answerPublic_login service asks, complete]
    exact Program.run_bind _ _ world
  onlyHolder email password appId session later done := by
    rcases Service.login_ok knows.sound done with ⟨user, app, stored, rfl, rfl, verified, opens⟩
    rcases knows.account_of_user stored with ⟨account, given, keeps⟩
    exact ⟨user.id, account, user, app, given, keeps.email_eq.symm, stored,
      (Password.verify_eq_true_iff _ _ _).mp verified, opens.accessToken⟩
  rejects email free password appId := by
    refine service.outcome_login_of_unknown ?_
    cases found : world.stores.credentials.findUserByEmail email with
    | none => rfl
    | some user =>
      rcases (knows.sound.findUserByEmail_eq_some_iff email user).mp found with ⟨stored, shown⟩
      rcases knows.account_of_user stored with ⟨account, given, keeps⟩
      exact absurd (keeps.email_eq.symm.trans shown) (free user.id account given)

end KnowsAccounts

/-- After any requests to a deployment that began without records and whose
store calls did not fail, whatever the clock showed, a user logs in with the
email and the password that were given last: by the registration, or by the
last successful update that carried one.  Nobody else is let in for that
email, no other password is accepted than one that is hashed to the stored
hash, and an email that no user has at the time is rejected. -/
theorem current_credentials_work (service : Service) (world : World) (requests : List Request)
    (empty : world.stores = .empty) (smooth : ∀ request ∈ requests, request.IsSmooth)
    (random : forall number count, (world.entropy number count).length = count)
    (sized : service.primitives.IsSized) (usable : service.cost.IsUsable) (now : Instant) :
    AdmitsAccounts service (service.serve world requests).1
      { (service.serve world requests).2 with now := now } :=
  ((KnowsAccounts.serve smooth empty random).setClock now).admitsAccounts sized usable

namespace Sample

/-- A service with the primitives and the settings that it has by default. -/
def deployment : Service :=
  ⟨Primitives.standard, ⟨3600, 30, 5000⟩, ⟨19456, 2, 1⟩⟩

/-- A user moves to another email and chooses another password. -/
def moving : List Request :=
  joining ++ [request 1 (.updateUser 1 ⟨some "ann@example.net", some "battery staple", none⟩)]

theorem isSmooth_moving : ∀ request ∈ moving, request.IsSmooth := by
  simp only [moving, joining, List.cons_append, List.nil_append, List.forall_mem_cons]
  exact ⟨rfl, rfl, rfl, fun _ impossible => absurd impossible List.not_mem_nil⟩

theorem isUsable_cost : deployment.cost.IsUsable :=
  ⟨by decide, by decide, by decide⟩

end Sample

/-- The new email and password are good, and the old email is not. -/
theorem current_credentials_work_of_moving :
    Sample.start.stores = .empty ∧ (∀ request ∈ Sample.moving, request.IsSmooth) ∧
      (forall number count, (Sample.start.entropy number count).length = count) ∧
      Sample.deployment.primitives.IsSized ∧ Sample.deployment.cost.IsUsable ∧
      let final : World := { (Sample.deployment.serve Sample.start Sample.moving).2 with now := ⟨0⟩ }
      (∃ session later, Operation.outcome (Sample.deployment.login "ann@example.net" "battery staple" 1) final =
        (.ok session, later)) ∧
      Operation.outcome (Sample.deployment.login Sample.email "battery staple" 1) final =
        (.error .invalidCredentials, final) := by
  have random : forall number count, (Sample.start.entropy number count).length = count :=
    fun number count => List.length_replicate
  have told := current_credentials_work Sample.deployment Sample.start Sample.moving rfl Sample.isSmooth_moving
    random Primitives.standard_isSized Sample.isUsable_cost ⟨0⟩
  have sound : (Sample.deployment.serve Sample.start Sample.moving).2.stores.credentials.IsSound :=
    Sample.deployment.isSound_serve rfl Sample.moving
  have given : accountOf? (Sample.deployment.serve Sample.start Sample.moving).1 1 =
      some ⟨"ann@example.net", "battery staple"⟩ := by
    decide +kernel
  have registered : (Sample.deployment.serve Sample.start Sample.moving).2.stores.credentials.userCount = 1 := by
    decide +kernel
  have enabled : ((Sample.deployment.serve Sample.start Sample.moving).2.stores.credentials.apps[(1 : AppId)]?).any
      (fun app => app.id == 1 && app.enabled) = true := by
    decide +kernel
  have unused : (Sample.deployment.serve Sample.start Sample.moving).2.stores.tokens.tokens.isEmpty = true := by
    decide +kernel
  have issues : Sample.deployment.CanIssueAt ⟨0⟩ := by decide
  refine ⟨rfl, Sample.isSmooth_moving, random, Primitives.standard_isSized, Sample.isUsable_cost, ?_⟩
  generalize Sample.deployment.serve Sample.start Sample.moving = served at *
  intro final
  constructor
  · cases stored : served.2.stores.credentials.apps[(1 : AppId)]? with
    | none =>
      rw [stored] at enabled
      cases enabled
    | some app =>
      rw [stored] at enabled
      rcases Bool.and_eq_true_iff.mp enabled with ⟨named, usable⟩
      have named : app.id = 1 := beq_iff_eq.mp named
      have new : final.record? (Sample.deployment.tokenDigest final.nextText) = none := by
        unfold World.record?
        rw [show final.stores.tokens.tokens = ∅ from Std.ExtTreeMap.isEmpty_iff.mp unused]
        exact Std.ExtTreeMap.getElem?_empty
      rcases told.admits 1 _ app given (named.symm ▸ stored) usable issues new with ⟨session, later, opened, _⟩
      rw [named] at opened
      exact ⟨session, later, opened⟩
  · refine told.rejects Sample.email (fun userId account there same => ?_) _ 1
    rcases (told.present userId).mp (by rw [there]; rfl) with ⟨user, stored, _⟩
    have bounded := sound.userIds userId user stored
    rw [registered] at bounded
    obtain rfl : userId = 1 := Int.le_antisymm bounded.2 bounded.1
    cases there.symm.trans given
    exact absurd same (by decide)

end SingleSignOn

import SingleSignOn.Proofs.History.Description

namespace SingleSignOn

/-!
# The ledger settles refreshes

Whether a refresh succeeds is told by the ledger: the presented token has to
be current, alive by the clock, and for an app that is enabled.  What the
session is for is told by the ledger too.  The cases are those of the record
that is stored under the digest of the presented token.
-/

/-- Whether there is an app of an id that is enabled now. -/
def Ledger.Enables (ledger : Ledger) (appId : AppId) : Prop :=
  ∃ app, ledger.app? appId = some app ∧ app.enabled = true

/-- A session is for a user and an app: its access token is signed with the
secret of the app, and claims the email and the grant that the user has now. -/
def Session.IsFor (service : Service) (ledger : Ledger) (now : Instant) (userId : UserId)
    (appId : AppId) (session : Session) : Prop :=
  ∃ email app, ledger.emailOf? userId = some email ∧ ledger.app? appId = some app ∧
    AccessToken.expiry? service.auth.accessTokenLifetime now = some session.expiresAt ∧
    session.accessToken = AccessToken.tokenOf service.primitives app.secret
      ⟨userId, email, appId, ledger.isAdmin userId appId, session.expiresAt⟩

/-- The answer to a refresh is the one that the ledger tells.  The new token
is for the user and the app of the old one. -/
structure Ledger.Settles (service : Service) (ledger : Ledger) (token : String) (now : Instant)
    (answer : Except Error Session) : Prop where
  succeeds : (∃ session, answer = .ok session) ↔
    ∃ holding ∈ ledger.current, holding.token = token ∧ holding.IsAlive service now ∧
      ledger.Enables holding.appId
  renews : forall session, answer = .ok session ->
    ∀ holding ∈ ledger.current, holding.token = token ->
    session.IsFor service ledger now holding.userId holding.appId ∧
      ledger.opened? ⟨.refresh token, .ok session, now⟩ =
        some ⟨session.refreshToken, holding.userId, holding.appId, now⟩
  refuses : forall error, answer = .error error -> error = .invalidCredentials

theorem Ledger.settles_of_rejected {service : Service} {ledger : Ledger} {token : String}
    {now : Instant}
    (useless : ∀ holding ∈ ledger.current, holding.token = token -> holding.IsAlive service now ->
      ¬ledger.Enables holding.appId) :
    ledger.Settles service token now (.error .invalidCredentials) := by
  refine ⟨⟨fun ⟨session, opened⟩ => (nomatch opened), ?_⟩, fun session opened => (nomatch opened),
    ?_⟩
  · rintro ⟨holding, member, same, alive, enabled⟩
    exact absurd enabled (useless holding member same alive)
  · intro error failed
    exact (Except.error.inj failed).symm

namespace Ledger.Describes

variable {service : Service} {past : List String} {ledger : Ledger} {world later : World}
  (describes : ledger.Describes service past world)

include describes

theorem holding?_eq {holding : Holding} (member : holding ∈ ledger.current) :
    ledger.holding? holding.token = some holding := by
  refine find?_eq_some_of_unique member (beq_self_eq_true holding.token) fun other listed same => ?_
  exact describes.covers.apart other listed holding member
    (congrArg service.tokenDigest (beq_iff_eq.mp same))

theorem eq_of_token_eq {first second : Holding} (one : first ∈ ledger.current)
    (two : second ∈ ledger.current) (same : first.token = second.token) : first = second :=
  describes.covers.apart first one second two (congrArg service.tokenDigest same)

/-- A session is opened with the email, the grant and the secret that the ledger knows. -/
theorem isFor_sessionFor {user : User} {app : App} {now : Instant} {expiresAt : Int}
    {userId : UserId} {appId : AppId}
    (foundUser : world.stores.credentials.users[userId]? = some user)
    (foundApp : world.stores.credentials.apps[appId]? = some app)
    (access : AccessToken.expiry? service.auth.accessTokenLifetime now = some expiresAt)
    (refreshToken : String) :
    (service.sessionFor user app (world.stores.credentials.isAdmin user.id app.id) refreshToken expiresAt).IsFor
      service ledger now userId appId := by
  refine ⟨user.email, app, describes.mirrors.emailOf?_eq foundUser,
    describes.mirrors.app?_eq describes.sound foundApp, access, ?_⟩
  rw [describes.mirrors.isAdmin_eq, ← describes.sound.users userId user foundUser,
    ← describes.sound.apps appId app foundApp]
  rfl

theorem note_refresh_of_unknown {token : String} {answer : Except Error Session}
    (unknown : world.record? (service.tokenDigest token) = none)
    (done : Operation.outcome (service.refresh token) world = (answer, later)) :
    ledger.Settles service token world.now answer ∧
      (ledger.note ⟨.refresh token, answer, world.now⟩).Describes service past later := by
  rw [service.outcome_refresh_of_unknown unknown] at done
  cases done
  refine ⟨settles_of_rejected fun holding member same alive => ?_,
    describes.note_of_rejected rfl rfl describes.covers rfl⟩
  subst same
  rcases describes.covers.held holding member with stored | expired
  · cases unknown.symm.trans stored
  · exact absurd alive expired

section

variable {holding : Holding} (member : holding ∈ ledger.current) {answer : Except Error Session}

include member

theorem note_refresh_of_expired
    (known : world.record? (service.tokenDigest holding.token) = some (holding.record service))
    (expired : ¬holding.IsAlive service world.now)
    (done : Operation.outcome (service.refresh holding.token) world = (answer, later)) :
    ledger.Settles service holding.token world.now answer ∧
      (ledger.note ⟨.refresh holding.token, answer, world.now⟩).Describes service past later := by
  have dead := (holding.not_isAlive_iff service world.now).mp expired
  rw [service.outcome_refresh_of_expired known dead] at done
  cases done
  have deleted :=
    world.record?_answer (.tokens (.deleteByToken (service.tokenDigest holding.token)))
  refine ⟨settles_of_rejected fun other listed same alive => ?_, describes.note_of_rejected rfl rfl
    (describes.covers.forget (fun digest record found => ?_) fun digest record found good => ?_) rfl⟩
  · rw [describes.eq_of_token_eq listed member same] at alive
    exact absurd alive expired
  · rw [deleted] at found
    simp only [StoreCall.effect, TokenCall.effect] at found
    split at found
    · cases found
    · exact found
  · rw [deleted, found]
    refine if_neg fun same => ?_
    subst same
    cases known.symm.trans found
    rw [dead] at good
    cases good

theorem note_refresh_of_inactive
    (known : world.record? (service.tokenDigest holding.token) = some (holding.record service))
    (alive : holding.IsAlive service world.now) {app : App}
    (found : world.stores.credentials.apps[holding.appId]? = some app)
    (disabled : ¬app.enabled = true)
    (done : Operation.outcome (service.refresh holding.token) world = (answer, later)) :
    ledger.Settles service holding.token world.now answer ∧
      (ledger.note ⟨.refresh holding.token, answer, world.now⟩).Describes service past later := by
  have good := holding.isExpiredAt_record service alive
  have inactive : ((world.stores.credentials.apps[(holding.record service).appId]?).filter
      fun app => app.enabled) = none := by
    refine (congrArg (Option.filter fun app => app.enabled) found).trans ?_
    exact Option.filter_some_neg (Bool.not_eq_true _ ▸ disabled)
  rw [service.outcome_refresh_of_inactive known good (.inr inactive)] at done
  cases done
  refine ⟨settles_of_rejected fun other listed same _ => ?_,
    describes.note_of_rejected rfl rfl describes.covers rfl⟩
  rw [describes.eq_of_token_eq listed member same]
  rintro ⟨listedApp, shown, enabled⟩
  rw [describes.mirrors.app?_eq describes.sound found] at shown
  cases shown
  exact disabled enabled

theorem note_refresh_of_active
    (known : world.record? (service.tokenDigest holding.token) = some (holding.record service))
    (alive : holding.IsAlive service world.now) {app : App}
    (foundApp : world.stores.credentials.apps[holding.appId]? = some app)
    (enabled : app.enabled = true) (issues : service.CanIssueAt world.now)
    (fresh : ∀ text ∈ world.textsUntil later, ∀ other ∈ past,
      service.tokenDigest other ≠ service.tokenDigest text)
    (done : Operation.outcome (service.refresh holding.token) world = (answer, later)) :
    ledger.Settles service holding.token world.now answer ∧
      (ledger.note ⟨.refresh holding.token, answer, world.now⟩).Describes service
        (past ++ world.textsUntil later) later := by
  have good := holding.isExpiredAt_record service alive
  obtain ⟨expiresAt, access⟩ := Option.isSome_iff_exists.mp issues.1
  obtain ⟨deadline, refresh⟩ := Option.isSome_iff_exists.mp issues.2
  obtain ⟨user, foundUser⟩ := describes.mirrors.user_of_hasUser (describes.owned holding member).1
  have userKey : user.id = holding.userId := describes.sound.users holding.userId user foundUser
  have appKey : app.id = holding.appId := describes.sound.apps holding.appId app foundApp
  obtain ⟨credentials, drawn, opened⟩ :=
    service.refresh_cases_of_active known done good foundUser foundApp enabled access refresh
  rw [World.textsUntil_of_next drawn] at fresh ⊢
  have new := fresh world.nextText (List.mem_singleton_self _)
  obtain ⟨rfl, records⟩ := opened (describes.covers.free new)
  have shown := describes.mirrors.app?_eq describes.sound foundApp
  let session :=
    service.sessionFor user app (world.stores.credentials.isAdmin user.id app.id) world.nextText expiresAt
  have opens : ledger.opened? ⟨.refresh holding.token, .ok session, world.now⟩ =
      some ⟨world.nextText, holding.userId, holding.appId, world.now⟩ := by
    show (ledger.holding? holding.token).map _ = _
    rw [describes.holding?_eq member]
    rfl
  refine ⟨⟨iff_of_true ⟨_, rfl⟩ ⟨holding, member, rfl, alive, app, shown, enabled⟩, ?_,
    fun error failed => (nomatch failed)⟩, ?_⟩
  · rintro session ⟨⟩ other listed same
    rw [describes.eq_of_token_eq listed member same]
    exact ⟨describes.isFor_sessionFor foundUser foundApp access world.nextText, opens⟩
  · have mirrors := describes.mirrors
    have sound := describes.sound
    rw [← credentials] at mirrors sound
    refine describes.note_of_opened opens (fun other => ?_) sound
      ⟨mirrors.users, mirrors.apps, mirrors.admins⟩
      (describes.owned holding member) ?_ (Operation.frame_of_outcome done).1
    · show (ledger.opened? _).any other.sharesPair = _
      rw [opens]
      rfl
    · refine describes.covers.replace new ?_ (fun digest record different kept => ?_)
        fun other listed => ?_
      · rw [records, if_neg (new holding.token (describes.covers.generated holding member)),
          if_pos rfl, userKey, appKey, Service.refreshDeadline?_eq_some refresh world.nextText holding.userId
            holding.appId]
        rfl
      · rw [records, if_neg different] at kept
        split at kept
        · cases kept
        · exact kept
      · rw [records, if_neg (Ne.symm (new other.token (describes.covers.generated other listed)))]
        refine if_congr ⟨fun same => ?_, fun shares => ?_⟩ rfl rfl
        · rw [← describes.covers.apart holding member other listed same]
          exact holding.sharesPair_self
        · rw [describes.covers.single other listed holding member shares]

end

/-- The ledger settles every refresh, and notes it. -/
theorem note_refresh {token : String} {answer : Except Error Session}
    (issues : service.CanIssueAt world.now)
    (presented : ∀ generated ∈ past, service.tokenDigest token = service.tokenDigest generated ->
      token = generated)
    (fresh : ∀ text ∈ world.textsUntil later, ∀ other ∈ past,
      service.tokenDigest other ≠ service.tokenDigest text)
    (done : Operation.outcome (service.refresh token) world = (answer, later)) :
    ledger.Settles service token world.now answer ∧
      (ledger.note ⟨.refresh token, answer, world.now⟩).Describes service
        (past ++ world.textsUntil later) later := by
  have wider : ∀ text ∈ past, text ∈ past ++ world.textsUntil later :=
    fun text => List.mem_append_left _
  cases known : world.record? (service.tokenDigest token) with
  | none =>
    exact (describes.note_refresh_of_unknown known done).imp_right fun after => after.mono wider
  | some stored =>
    obtain ⟨holding, member, rfl, digest⟩ := describes.covers.recorded _ _ known
    obtain rfl := presented _ (describes.covers.generated holding member) digest.symm
    by_cases alive : holding.IsAlive service world.now
    · obtain ⟨app, found⟩ := describes.mirrors.app_of_hasApp (describes.owned holding member).2
      by_cases enabled : app.enabled = true
      · exact describes.note_refresh_of_active member known alive found enabled issues fresh done
      · exact (describes.note_refresh_of_inactive member known alive found enabled done).imp_right
          fun after => after.mono wider
    · exact (describes.note_refresh_of_expired member known alive done).imp_right
        fun after => after.mono wider

end Ledger.Describes

end SingleSignOn

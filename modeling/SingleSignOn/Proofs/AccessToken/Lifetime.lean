import SingleSignOn.Proofs.History.RefreshLaw
import SingleSignOn.Proofs.Service.Opening
import SingleSignOn.Proofs.Service.Standing

namespace SingleSignOn

/-!
# How long an access token is good

An access token says who its user was when it was issued, and nothing that
happens to the user afterwards changes that.  What can still end it is the
clock and what becomes of its app: a deletion ends it for good, and while the
app is disabled it does not count.  The answers to later requests tell this
alone, without a look at the stores.
-/

open AccessToken

/-- The session that an answer opens. -/
def Answered.session? : Answered -> Option Session
  | ⟨.login _ _ _, .ok session, _⟩ => some session
  | ⟨.refresh _, .ok session, _⟩ => some session
  | _ => none

/-- The user and the app that a login or a refresh would open a session for:
the user who holds the email and the app that is asked for, or those that the
record of the refresh token names. -/
def World.parties? (service : Service) (world : World) : ServiceCall -> Option (User × AppId)
  | .login email _ appId => (world.stores.credentials.findUserByEmail email).map (·, appId)
  | .refresh token => do
    let record ← world.record? (service.tokenDigest token)
    let user ← world.stores.credentials.users[record.userId]?
    return (user, record.appId)
  | _ => none

/-- Whether answers leave an app enabled that was so before them: it was never
deleted, and where its status was set, the latest status counts. -/
def Answered.leaveEnabled (appId : AppId) (answers : List Answered) : Bool :=
  !answers.any (Answered.deletesApp appId) &&
    (answers.reverse.findSome? (Answered.status? appId)).getD true

theorem Answered.standing?_of_session? {entry : Answered} {session : Session}
    (opened : entry.session? = some session) (appId : AppId) (before : Option Standing) :
    Answered.standing? appId before entry = before := by
  rcases entry with ⟨call, answer, instant⟩
  cases call with
  | login email password named => exact Answered.standing?_of_other rfl answer instant before
  | refresh token => exact Answered.standing?_of_other rfl answer instant before
  | _ => cases opened

namespace Service

variable (service : Service)

/-! ## Runs from empty stores -/

/-- What every store call preserves, a run of requests preserves. -/
theorem serve_preserves (holds : Stores -> Prop)
    (kept : forall stores now request, holds stores -> holds (Stores.answer stores now request).2)
    (world : World) (requests : List Request) (start : holds world.stores) :
    holds (service.serve world requests).2.stores := by
  induction requests generalizing world with
  | nil => exact start
  | cons request later hypothesis =>
    apply hypothesis
    have only := Program.callsOnly_true (service.program request.call)
    exact Program.runUnder_preserves holds only (fun stores now call _ => kept stores now call)
      request.mishaps ⟨{ world with now := request.now }, []⟩ start

theorem isSound_serve {world : World} (empty : world.stores = .empty) (requests : List Request) :
    (service.serve world requests).2.stores.credentials.IsSound := by
  refine service.serve_preserves (·.credentials.IsSound) Stores.isSound_answer world requests ?_
  rw [empty]
  exact CredentialStore.isSound_empty

/-! ## The token at its issue -/

variable {service}

/-- An answer that opens a session opens it for the parties of the call. -/
theorem opens_of_respond {world after : World} {request : Request} {answered : Answered}
    {session : Session} (sound : world.stores.credentials.IsSound)
    (asked : service.respond world request = (answered, after))
    (opened : answered.session? = some session) :
    ∃ user app, world.parties? service request.call = some (user, app.id) ∧
      world.stores.credentials.users[user.id]? = some user ∧
      service.Opens { world with now := request.now } user app session := by
  rcases request with ⟨call, now, mishaps⟩
  rcases ran : (service.program call).runUnder mishaps ⟨{ world with now := now }, []⟩ with ⟨answer, later⟩
  rw [service.respond_of_runUnder ran] at asked
  cases asked
  have filed := sound.toIsFiled
  cases call with
  | login email password appId =>
    cases answer with
    | error error => cases opened
    | ok answered =>
      cases opened
      rcases login_runUnder_ok filed ran with ⟨user, app, found, rfl, opens⟩
      have stored := ((sound.findUserByEmail_eq_some_iff email user).mp found).1
      refine ⟨user, app, ?_, stored, opens⟩
      exact Option.map_eq_some_iff.mpr ⟨user, found, rfl⟩
  | refresh token =>
    cases answer with
    | error error => cases opened
    | ok answered =>
      cases opened
      rcases refresh_runUnder_ok filed ran with ⟨record, user, app, kept, found, named, opens⟩
      have identity : user.id = record.userId := filed.users _ _ found
      refine ⟨user, app, ?_, identity ▸ found, opens⟩
      rw [World.parties?, World.record?, kept, Option.bind_eq_bind, Option.bind_some, found, named]
      rfl
  | _ => cases opened

theorem fitsInt64_of_numbered {id : Int} {count : Nat} (numbered : 0 < id ∧ id ≤ count)
    (few : (count : Int) ≤ Decimal.int64Max) : Decimal.FitsInt64 id := by
  have least : Decimal.int64Min ≤ 0 := by decide
  exact ⟨Int.le_trans least (Int.le_of_lt numbered.1), Int.le_trans numbered.2 few⟩

/-- The claims of a session have room in 64 bits as long as the ids have. -/
theorem Opens.representable {world : World} {user : User} {app : App} {session : Session}
    (opens : service.Opens world user app session) (sound : world.stores.credentials.IsSound)
    (stored : world.stores.credentials.users[user.id]? = some user)
    (users : (world.stores.credentials.userCount : Int) ≤ Decimal.int64Max)
    (apps : (world.stores.credentials.appCount : Int) ≤ Decimal.int64Max) (isAdmin : Bool) :
    Representable ⟨user.id, user.email, app.id, isAdmin, session.expiresAt⟩ := by
  rcases (expiry?_eq_some_iff _ _ _).mp opens.expiry with ⟨⟨_, fits⟩, same⟩
  have userFits := fitsInt64_of_numbered (sound.userIds _ _ stored) users
  have appFits := fitsInt64_of_numbered (sound.appIds _ _ opens.active) apps
  exact ⟨userFits, appFits, same ▸ fits⟩

theorem Opens.expiresAt_nonneg {world : World} {user : User} {app : App} {session : Session}
    (opens : service.Opens world user app session) (clock : 0 ≤ world.now.nanoseconds) :
    0 ≤ session.expiresAt := by
  rcases (expiry?_eq_some_iff _ _ _).mp opens.expiry with ⟨_, same⟩
  have issued : 0 ≤ world.now.unixSeconds := Int.ediv_nonneg clock (by decide)
  rw [← same]
  exact Int.add_nonneg issued (Int.natCast_nonneg _)

/-! ## The token later on -/

theorem verifyAccess_of_effective {token : String} {appId : AppId} {mishaps : Mishaps} {passage : Passage}
    (named : claimedApp token = .ok appId)
    (effective : (nextEnding service mishaps passage).isEffective = true) :
    ((service.verifyAccess token).runUnder mishaps passage).1 = judge service token passage.world appId := by
  rw [verifyAccess_of_ok service mishaps passage token named]
  cases ending : nextEnding service mishaps passage with
  | refused error =>
    rw [ending] at effective
    cases effective
  | givenUp =>
    rw [ending] at effective
    cases effective
  | carriedOut => rfl
  | miscounted => rfl

/-- A token that is signed with the secret of its app is judged by the clock
and the status of the app. -/
theorem report_judge_tokenOf (service : Service) {world : World} {secret : String} {claims : AccessClaims}
    (representable : Representable claims) (positive : 0 ≤ claims.expiresAt) {standing : Option Standing}
    (current : world.stores.credentials.standing? claims.appId = standing)
    (kept : forall left, standing = some left -> left.secret = secret) :
    report (judge service (tokenOf service.primitives secret claims) world claims.appId) =
      .ok (if world.now.unixSeconds < claims.expiresAt ∧ standing.any Standing.enabled = true
        then some claims else none) := by
  unfold CredentialStore.standing? at current
  unfold judge
  cases stored : world.stores.credentials.apps[claims.appId]? with
  | none =>
    rw [stored] at current
    subst current
    have refused : ¬(world.now.unixSeconds < claims.expiresAt ∧ false = true) :=
      fun both => Bool.false_ne_true both.2
    exact congrArg Except.ok (if_neg refused).symm
  | some app =>
    rw [stored] at current
    subst current
    have same : app.secret = secret := kept ⟨app.secret, app.enabled⟩ rfl
    rw [Option.filter_some]
    change _ = Except.ok (if _ ∧ app.enabled = true then some claims else none)
    by_cases enabled : app.enabled = true
    · have verified := verifyFor_tokenOf service.primitives secret world.now representable positive
      rw [if_pos enabled]
      dsimp only
      rw [same, verified]
      by_cases early : world.now.unixSeconds < claims.expiresAt
      · rw [if_pos (Int.le_of_lt early), if_pos ⟨early, enabled⟩]
        exact congrArg report (if_neg (Int.not_le.mpr early))
      · have late : claims.expiresAt ≤ world.now.unixSeconds := Int.not_lt.mp early
        have refused : ¬(world.now.unixSeconds < claims.expiresAt ∧ app.enabled = true) :=
          fun both => early both.1
        rw [if_neg refused]
        split
        · exact congrArg report (if_pos late)
        · rfl
    · have refused : ¬(world.now.unixSeconds < claims.expiresAt ∧ app.enabled = true) :=
        fun both => enabled both.2
      rw [if_neg enabled, if_neg refused]
      rfl

theorem Opens.stands {world : World} {user : User} {app : App} {session : Session}
    (opens : service.Opens world user app session) (sound : world.stores.credentials.IsSound) :
    world.stores.credentials.Stands app.id (some ⟨app.secret, true⟩) := by
  refine ⟨(sound.appIds _ _ opens.active).2, ?_⟩
  rw [CredentialStore.standing?, opens.active, Option.map_some, opens.enabled]

/-- An access token that was issued on some stores, judged on later ones. -/
theorem report_judge_of_opens {world final : World} {user : User} {app : App} {session : Session}
    (opens : service.Opens world user app session)
    (representable : forall isAdmin,
      Representable ⟨user.id, user.email, app.id, isAdmin, session.expiresAt⟩)
    (positive : 0 ≤ session.expiresAt) {answers : List Answered}
    (stands : final.stores.credentials.Stands app.id
      (answers.foldl (Answered.standing? app.id) (some ⟨app.secret, true⟩))) :
    report (judge service session.accessToken final app.id) =
      .ok (if final.now.unixSeconds < session.expiresAt ∧ Answered.leaveEnabled app.id answers = true
        then some ⟨user.id, user.email, app.id, world.stores.credentials.isAdmin user.id app.id,
          session.expiresAt⟩ else none) := by
  have standing := stands.current
  have kept : forall left, answers.foldl (Answered.standing? app.id) (some ⟨app.secret, true⟩) = some left ->
      left.secret = app.secret := by
    intro left found
    rw [foldl_standing?] at found
    split at found
    · cases found
    · cases found
      rfl
  have judged := service.report_judge_tokenOf
    (representable (world.stores.credentials.isAdmin user.id app.id)) positive standing kept
  rw [← opens.accessToken] at judged
  rw [judged, foldl_standing?, Answered.leaveEnabled]
  cases answers.any (Answered.deletesApp app.id) with
  | true => rfl
  | false => rfl

/-- Requests are served from empty stores, and one of them opens a session for
a user and an app.  At any later time, if the look-up of the app answers, the
access token of the session is reported good exactly if it has not expired
and the requests since then have left the app enabled.  Its claims are those
of the issue.  In every other case it is reported not good. -/
theorem accessToken_lifetime (service : Service) {start world after : World} {earlier : List Request}
    {opening : Request} {entry : Answered} {session : Session} (empty : start.stores = .empty)
    (reached : (service.serve start earlier).2 = world)
    (users : world.stores.credentials.userCount < 2 ^ 63)
    (apps : world.stores.credentials.appCount < 2 ^ 63) (clock : 0 ≤ opening.now.nanoseconds)
    (asked : service.respond world opening = (entry, after)) (opened : entry.session? = some session) :
    ∃ user appId, world.parties? service opening.call = some (user, appId) ∧
      forall later answers final, service.serve after later = (answers, final) ->
      forall now mishaps,
        (nextEnding service mishaps ⟨{ final with now := now }, []⟩).isEffective = true ->
        ((service.program (.validateToken session.accessToken)).runUnder mishaps
          ⟨{ final with now := now }, []⟩).1 =
          .ok (if now.unixSeconds < session.expiresAt ∧ Answered.leaveEnabled appId answers = true
            then some ⟨user.id, user.email, appId, world.stores.credentials.isAdmin user.id appId,
              session.expiresAt⟩
            else none) := by
  have sound : world.stores.credentials.IsSound := reached ▸ service.isSound_serve empty earlier
  rcases opens_of_respond sound asked opened with ⟨user, app, parties, stored, opens⟩
  have usersFit : (world.stores.credentials.userCount : Int) ≤ Decimal.int64Max := by
    unfold Decimal.int64Max
    omega
  have appsFit : (world.stores.credentials.appCount : Int) ≤ Decimal.int64Max := by
    unfold Decimal.int64Max
    omega
  have representable := opens.representable sound stored usersFit appsFit
  have positive := opens.expiresAt_nonneg clock
  refine ⟨user, app.id, parties, fun later answers final served now mishaps effective => ?_⟩
  have issued : world.stores.credentials.Stands app.id (some ⟨app.secret, true⟩) :=
    opens.stands sound
  have settled := service.stands_respond world opening issued
  rw [asked, Answered.standing?_of_session? opened] at settled
  let passage : Passage := ⟨{ final with now := now }, []⟩
  have stands : passage.world.stores.credentials.Stands app.id
      (answers.foldl (Answered.standing? app.id) (some ⟨app.secret, true⟩)) := by
    have followed := service.stands_serve after later settled
    rw [served] at followed
    exact followed
  have claimed : claimedApp session.accessToken = .ok app.id := by
    rw [opens.accessToken]
    exact claimedApp_tokenOf service.primitives app.secret (representable _)
  rw [program_validateToken, Program.runUnder_bind]
  refine (congrArg report (verifyAccess_of_effective claimed effective)).trans ?_
  exact report_judge_of_opens opens representable positive stands

end Service

namespace Sample

/-- A call at a second, without any mishap. -/
def request (second : Int) (call : ServiceCall) : Request :=
  ⟨call, ⟨second * Instant.perSecond⟩, Mishaps.nothing⟩

/-- A user and an app are registered. -/
def joining : List Request :=
  [request 0 (.register email password Profile.empty), request 0 (.createApp "app" "" (some "secret"))]

/-- The world after they are. -/
def joined : World := (service.serve start joining).2

/-- The user logs in. -/
def arrival : Request := request 0 (.login email password 1)

/-- The answer to the login, and the world after it. -/
def arrived : Answered × World := service.respond joined arrival

/-- Then the app is disabled, renamed and enabled again, and the user is deleted. -/
def leaving : List Request :=
  [request 1 (.setEnabled 1 false), request 2 (.updateApp 1 (some "other") none),
    request 3 (.setEnabled 1 true), request 4 (.deleteUser 1)]

/-- The answers to that, and the world after them, a second before the token expires. -/
def left : List Answered × World := service.serve arrived.2 leaving

def lastSecond : Passage := ⟨{ left.2 with now := ⟨59 * Instant.perSecond⟩ }, []⟩

end Sample

/-- The access token of the login is good to its last second, under the claims
of a user who is deleted. -/
theorem accessToken_lifetime_of_arrival :
    ∃ session,
      Sample.start.stores = .empty ∧ (Sample.service.serve Sample.start Sample.joining).2 = Sample.joined ∧
      Sample.joined.stores.credentials.userCount < 2 ^ 63 ∧
      Sample.joined.stores.credentials.appCount < 2 ^ 63 ∧ 0 ≤ Sample.arrival.now.nanoseconds ∧
      Sample.service.respond Sample.joined Sample.arrival = Sample.arrived ∧
      Sample.arrived.1.session? = some session ∧
      Sample.service.serve Sample.arrived.2 Sample.leaving = Sample.left ∧
      (Service.nextEnding Sample.service Mishaps.nothing Sample.lastSecond).isEffective = true ∧
      ((Sample.service.program (.validateToken session.accessToken)).runUnder Mishaps.nothing
        Sample.lastSecond).1 = .ok (some ⟨1, Sample.email, 1, false, 60⟩) := by
  have reached : (Sample.service.serve Sample.start Sample.joining).2 = Sample.joined := rfl
  have users : Sample.joined.stores.credentials.userCount < 2 ^ 63 := by decide +kernel
  have apps : Sample.joined.stores.credentials.appCount < 2 ^ 63 := by decide +kernel
  have clock : 0 ≤ Sample.arrival.now.nanoseconds := by decide +kernel
  have asked : Sample.service.respond Sample.joined Sample.arrival =
      (Sample.arrived.1, Sample.arrived.2) := (Prod.eta _).symm
  have served : Sample.service.serve Sample.arrived.2 Sample.leaving = (Sample.left.1, Sample.left.2) :=
    (Prod.eta _).symm
  have granted : Sample.arrived.1.session?.map (·.expiresAt) = some 60 := by decide +kernel
  have named : (Sample.joined.parties? Sample.service Sample.arrival.call).map
      (fun both => (both.1.id, both.1.email, both.2)) = some (1, Sample.email, 1) := by decide +kernel
  have grant : Sample.joined.stores.credentials.isAdmin 1 1 = false := by decide +kernel
  have enabled : Answered.leaveEnabled 1 Sample.left.1 = true := by decide +kernel
  have effective :
      (Service.nextEnding Sample.service Mishaps.nothing Sample.lastSecond).isEffective = true := by
    decide
  rcases Option.map_eq_some_iff.mp granted with ⟨session, opened, expiry⟩
  rcases Service.accessToken_lifetime Sample.service rfl reached users apps clock asked opened with
    ⟨user, appId, parties, good⟩
  have judged := good Sample.leaving _ _ served ⟨59 * Instant.perSecond⟩ Mishaps.nothing effective
  rw [parties, Option.map_some] at named
  rcases Prod.mk.inj (Option.some.inj named) with ⟨userId, others⟩
  rcases Prod.mk.inj others with ⟨shown, rfl⟩
  rw [userId, shown, expiry, grant] at judged
  refine ⟨session, rfl, reached, users, apps, clock, rfl, opened, rfl, effective, judged.trans ?_⟩
  exact congrArg Except.ok (if_pos ⟨by decide, enabled⟩)

end SingleSignOn

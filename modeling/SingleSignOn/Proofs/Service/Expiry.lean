import SingleSignOn.Proofs.Service.Login
import SingleSignOn.Proofs.Settings.Bounds
import SingleSignOn.Time.Calendar

namespace SingleSignOn

/-!
# Expiries are exact or refused

The expiry of an access token is a 64-bit number of seconds, and that of a
refresh token is an instant of the calendar.  Where one of them is out of
range, no session is opened and nothing is stored; otherwise both are the
exact sums.  The bounds under which settings are read keep both in range for
as long as the calendar goes on for eleven more years.
-/

namespace AuthSettings

/-- The second at which an access token expires. -/
def accessExpiry (auth : AuthSettings) (now : Instant) : Int :=
  now.unixSeconds + auth.accessTokenLifetime

/-- The instant at which a refresh token expires, to the nanosecond. -/
def refreshExpiry (auth : AuthSettings) (now : Instant) : Instant :=
  ⟨now.nanoseconds + auth.refreshTokenDays * 86400 * 1000000000⟩

/-- Both expiries of a session that is opened at an instant are in range, and so are the lifetimes in seconds. -/
structure Reaches (auth : AuthSettings) (now : Instant) : Prop where
  lifetime : (auth.accessTokenLifetime : Int) ≤ Decimal.int64Max
  access : Decimal.FitsInt64 (auth.accessExpiry now)
  days : Decimal.FitsInt64 (auth.refreshTokenDays * 86400)
  refresh : (auth.refreshExpiry now).InCalendar

theorem reaches_iff (auth : AuthSettings) (now : Instant) :
    auth.Reaches now ↔ (auth.accessTokenLifetime : Int) ≤ Decimal.int64Max ∧
      Decimal.FitsInt64 (auth.accessExpiry now) ∧ Decimal.FitsInt64 (auth.refreshTokenDays * 86400) ∧
      (auth.refreshExpiry now).InCalendar := by
  constructor
  · intro reaches
    exact ⟨reaches.lifetime, reaches.access, reaches.days, reaches.refresh⟩
  · rintro ⟨lifetime, access, days, refresh⟩
    exact ⟨lifetime, access, days, refresh⟩

instance (auth : AuthSettings) (now : Instant) : Decidable (auth.Reaches now) :=
  decidable_of_iff _ (auth.reaches_iff now).symm

/-- The range checks of a session are these, and what they let through are the exact sums. -/
theorem expiries_of_reaches {service : Service} {now : Instant} (reaches : service.auth.Reaches now) :
    AccessToken.expiry? service.auth.accessTokenLifetime now = some (service.auth.accessExpiry now) ∧
      service.refreshDeadline? now = some (service.auth.refreshExpiry now) := by
  constructor
  · exact (AccessToken.expiry?_eq_some_iff _ _ _).mpr ⟨⟨reaches.lifetime, reaches.access⟩, rfl⟩
  · unfold Service.refreshDeadline? refreshTokenLifetime?
    dsimp only
    rw [if_pos (show Decimal.FitsInt64 (service.auth.refreshTokenDays * secondsPerDay) from reaches.days)]
    exact if_pos reaches.refresh

theorem unrepresentable_of_not_reaches {service : Service} {now : Instant} (beyond : ¬service.auth.Reaches now) :
    AccessToken.expiry? service.auth.accessTokenLifetime now = none ∨ service.refreshDeadline? now = none := by
  cases access : AccessToken.expiry? service.auth.accessTokenLifetime now with
  | none => exact .inl rfl
  | some expiresAt =>
    rcases (AccessToken.expiry?_eq_some_iff _ _ _).mp access with ⟨⟨lifetime, fits⟩, _⟩
    cases refresh : service.refreshDeadline? now with
    | none => exact .inr rfl
    | some deadline =>
      rcases Option.bind_eq_some_iff.mp refresh with ⟨seconds, whole, added⟩
      rcases Option.ite_none_right_eq_some.mp whole with ⟨days, same⟩
      rcases Option.ite_none_right_eq_some.mp added with ⟨dated, _⟩
      cases same
      exact absurd ⟨lifetime, fits, days, dated⟩ beyond

end AuthSettings

namespace Calendar

/-! ## Years

The calendar reckons in years that begin in March.  For a bound on instants
it is enough to know such a year, and that a day belongs to it or to the next. -/

theorem year_bounds (day : Int) :
    ∃ cycle : Int, ∃ dayOfCycle : Nat, day + 719468 = 146097 * cycle + dayOfCycle ∧ dayOfCycle < 146097 ∧
      ((dayOfCycle - dayOfCycle / 1460 + dayOfCycle / 36524 - dayOfCycle / 146096) / 365 : Nat) + cycle * 400 ≤
        (dateOfDay day).1 ∧
      (dateOfDay day).1 ≤
        ((dayOfCycle - dayOfCycle / 1460 + dayOfCycle / 36524 - dayOfCycle / 146096) / 365 : Nat) +
          cycle * 400 + 1 := by
  have low : 0 ≤ (day + 719468) % 146097 := by omega
  have high : (day + 719468) % 146097 < 146097 := by omega
  have carried (carries : Prop) [Decidable carries] :
      0 ≤ (if carries then 1 else 0 : Int) ∧ (if carries then 1 else 0 : Int) ≤ 1 := by
    split <;> decide
  exists (day + 719468) / 146097, ((day + 719468) % 146097).toNat
  constructor
  · omega
  constructor
  · omega
  constructor
  · exact Int.le_add_of_nonneg_right (carried _).1
  · exact Int.add_le_add_left (carried _).2 _

theorem day_bounds {day : Int} (first : 1970 ≤ (dateOfDay day).1) (last : (dateOfDay day).1 ≤ 9988) :
    -306 ≤ day ∧ day < 2928940 := by
  rcases year_bounds day with ⟨cycle, dayOfCycle, split, small, lower, upper⟩
  generalize shown : (dayOfCycle - dayOfCycle / 1460 + dayOfCycle / 36524 - dayOfCycle / 146096) / 365 = year
    at lower upper
  have late : 1969 ≤ year + cycle * 400 := by omega
  have early : year + cycle * 400 ≤ 9988 := by omega
  have short : year ≤ 399 := by omega
  -- Only in the first and in the last cycle that is possible does the year within the cycle matter.
  constructor
  · rcases Int.lt_or_le 4 cycle with later | least
    · omega
    · have first : cycle = 4 := by omega
      omega
  · rcases Int.lt_or_le cycle 24 with earlier | greatest
    · omega
    · have last : cycle = 24 := by omega
      omega

/-- An instant of the years 1970 to 9988 comes before the eleventh last year of the calendar is two months old. -/
theorem unixSeconds_bounds {now : Instant} (first : 1970 ≤ (momentOf now).year)
    (last : (momentOf now).year ≤ 9988) :
    -26438400 ≤ now.unixSeconds ∧ now.unixSeconds < 253060416000 := by
  have bounds := day_bounds first last
  omega

end Calendar

namespace AuthSettings

/-- Lifetimes within the bounds of their options stay within the calendar until the end of 9988. -/
theorem reaches_of_lifetimesInBounds {auth : AuthSettings} (bounds : Settings.LifetimesInBounds auth)
    {now : Instant} (first : 1970 ≤ (Calendar.momentOf now).year) (last : (Calendar.momentOf now).year ≤ 9988) :
    auth.Reaches now := by
  rcases Calendar.unixSeconds_bounds first last with ⟨late, early⟩
  rcases bounds with ⟨⟨_, year⟩, ⟨day, decade⟩⟩
  constructor
  · unfold Decimal.int64Max
    omega
  · unfold accessExpiry Decimal.FitsInt64 Decimal.int64Min Decimal.int64Max
    omega
  · unfold Decimal.FitsInt64 Decimal.int64Min Decimal.int64Max
    omega
  · unfold refreshExpiry Instant.InCalendar Instant.calendarStart Instant.calendarEnd
    unfold Instant.unixSeconds Instant.perSecond at *
    dsimp only
    omega

end AuthSettings

namespace Service

/-- What a refresh needs: a token that is stored and has not expired, for a user who is stored and an app that
may be used. -/
structure Honours (service : Service) (world : World) (token : String) (stored : RefreshToken) (user : User)
    (app : App) : Prop where
  presented : world.record? (service.tokenDigest token) = some stored
  alive : stored.isExpiredAt world.now = false
  holder : world.stores.credentials.users[stored.userId]? = some user
  active : world.stores.credentials.apps[stored.appId]? = some app
  enabled : app.enabled = true

/-- A login with valid credentials or a refresh with a valid token, for a user and
an app.  The last argument is the record that stands in the way of the new one, if
a random text was drawn that is in use. -/
inductive Entitles (service : Service) (world : World) (user : User) (app : App) :
    Operation Session -> Option RefreshToken -> Prop
  | login (email password : String) (appId : AppId)
      (admits : service.Admits world email password appId user app) :
      Entitles service world user app (service.login email password appId)
        (world.recordBut? user.id app.id (service.tokenDigest world.nextText))
  | refresh (token : String) (stored : RefreshToken) (honours : service.Honours world token stored user app) :
      Entitles service world user app (service.refresh token)
        (world.record? (service.tokenDigest world.nextText))

/-- A session whose expiries are the exact sums, in what is handed out, what is signed and what is stored. -/
structure ExpiresExactly (service : Service) (world later : World) (user : User) (app : App) (session : Session) :
    Prop where
  shown : session.expiresAt = service.auth.accessExpiry world.now
  signed : session.accessToken = AccessToken.tokenOf service.primitives app.secret
    ⟨user.id, user.email, app.id, world.stores.credentials.isAdmin user.id app.id,
      service.auth.accessExpiry world.now⟩
  stored : later.record? (service.tokenDigest session.refreshToken) =
    some ⟨service.tokenDigest session.refreshToken, user.id, app.id, service.auth.refreshExpiry world.now, world.now⟩

open Operation (outcome)

variable {service : Service} {world : World} {user : User} {app : App}

/-! ## The steps of a session -/

theorem outcome_create_of_new (service : Service) (world : World) (record : NewRefreshToken)
    (new : world.record? record.digest = none) :
    ∃ later, outcome (service.tokens (.create record)) world = (.ok (), later) ∧
      forall digest, later.record? digest =
        if record.digest = digest then
          some ⟨record.digest, record.userId, record.appId, record.expiresAt, world.now⟩
        else world.record? digest := by
  rcases created : outcome (service.tokens (.create record)) world with ⟨answer, later⟩
  rcases (service.create_cases created).2.2 new with ⟨rfl, placed⟩
  exact ⟨later, rfl, placed⟩

theorem outcome_create_of_taken (service : Service) (world : World) (record : NewRefreshToken) {other : RefreshToken}
    (taken : world.record? record.digest = some other) :
    outcome (service.tokens (.create record)) world = (.error TokenStore.tokenTaken, world) := by
  rw [outcome_tokens, TokenStore.answer, world.stores.tokens.create_of_some world.now record taken]
  rfl

theorem outcome_opening_of_beyond (isAdmin : Bool) (finish : Session × NewRefreshToken -> Operation Session)
    (beyond : ¬service.auth.Reaches world.now) :
    outcome (service.issueSession user app isAdmin >>= finish) world = (.error .internal, world) := by
  rw [Operation.outcome_bind,
    outcome_issueSession_of_unrepresentable user app isAdmin (AuthSettings.unrepresentable_of_not_reaches beyond)]

theorem outcome_opening_of_reaches (isAdmin : Bool) (finish : Session × NewRefreshToken -> Operation Session)
    (reaches : service.auth.Reaches world.now) :
    outcome (service.issueSession user app isAdmin >>= finish) world =
      outcome (finish
        (service.sessionFor user app isAdmin world.nextText (service.auth.accessExpiry world.now),
          service.recordFor user app world.nextText (service.auth.refreshExpiry world.now)))
        (world.drawBytes randomTextLength).2 := by
  rcases AuthSettings.expiries_of_reaches reaches with ⟨access, refresh⟩
  exact Operation.outcome_bind_of_ok (service.outcome_issueSession user app isAdmin access refresh) finish

/-! ## Login and refresh

Both come to opening a session once their conditions are met, and differ in
how they store it. -/

/-- The end of a login. -/
def storeReplacing (service : Service) (user : User) (app : App) (opened : Session × NewRefreshToken) :
    Operation Session := do
  let _ ← service.tokens (.deleteByOwner user.id app.id)
  service.tokens (.create opened.2)
  return opened.1

/-- The end of a refresh. -/
def storeExchanging (service : Service) (digest : String) (opened : Session × NewRefreshToken) :
    Operation Session := do
  service.tokens (.create opened.2)
  match ← service.attempt (.tokens (.deleteByToken digest)) with
  | .ok 0 =>
    let _ ← service.attempt (.tokens (.deleteByToken opened.2.digest))
    throw .invalidCredentials
  | _ => return opened.1

theorem outcome_login_of_admits {email password : String} {appId : AppId}
    (admits : service.Admits world email password appId user app) :
    outcome (service.login email password appId) world =
      outcome (service.issueSession user app (world.stores.credentials.isAdmin user.id app.id) >>=
        service.storeReplacing user app) world := by
  have found : outcome (service.credentials (.findUserByEmail email)) world = (.ok (some user), world) := by
    rw [outcome_findUserByEmail, admits.holder]
  have active : outcome (service.activeApp appId) world = (.ok (some app), world) := by
    rw [outcome_activeApp, admits.active, Option.filter_some_pos admits.enabled]
  unfold Service.login
  rw [Operation.outcome_bind_of_ok found]
  dsimp only
  rw [admits.verified, if_neg (by decide), Operation.outcome_bind_of_ok active]
  dsimp only
  rw [Operation.outcome_bind_of_ok (service.outcome_isAdmin _ _ _)]
  rfl

theorem outcome_refresh_of_honours {token : String} {stored : RefreshToken}
    (honours : service.Honours world token stored user app) :
    outcome (service.refresh token) world =
      outcome (service.issueSession user app (world.stores.credentials.isAdmin user.id app.id) >>=
        service.storeExchanging (service.tokenDigest token)) world := by
  have presented : outcome (service.tokens (.find (service.tokenDigest token))) world =
      (.ok (some stored), world) := by
    rw [← honours.presented]
    rfl
  have found : outcome (service.credentials (.findUserById stored.userId)) world = (.ok (some user), world) := by
    rw [outcome_findUserById, honours.holder]
  have active : outcome (service.activeApp stored.appId) world = (.ok (some app), world) := by
    rw [outcome_activeApp, honours.active, Option.filter_some_pos honours.enabled]
  unfold Service.refresh
  dsimp only
  rw [Operation.outcome_bind_of_ok presented]
  dsimp only
  rw [Operation.outcome_bind_of_ok (Operation.outcome_now world)]
  rw [if_neg (Bool.not_eq_true _ ▸ honours.alive), Operation.outcome_bind_of_ok found]
  dsimp only
  rw [Operation.outcome_bind_of_ok active]
  dsimp only
  rw [Operation.outcome_bind_of_ok (service.outcome_isAdmin _ _ _)]
  rfl

/-- How a login or a refresh ends: the session is handed out and its record is stored, unless another
record is in the way. -/
structure Stored (service : Service) (world : World) (user : User) (app : App)
    (finish : Session × NewRefreshToken -> Operation Session) (inTheWay : Option RefreshToken) : Prop where
  refused : forall session deadline, inTheWay.isSome = true ->
    (outcome (finish (session, service.recordFor user app world.nextText deadline))
      (world.drawBytes randomTextLength).2).1 = .error TokenStore.tokenTaken
  handedOut : forall session deadline, inTheWay = none -> ∃ later,
    outcome (finish (session, service.recordFor user app world.nextText deadline))
        (world.drawBytes randomTextLength).2 = (.ok session, later) ∧
      later.record? (service.tokenDigest world.nextText) =
        some ⟨service.tokenDigest world.nextText, user.id, app.id, deadline, world.now⟩

theorem stored_storeReplacing :
    service.Stored world user app (service.storeReplacing user app)
      (world.recordBut? user.id app.id (service.tokenDigest world.nextText)) := by
  let cleared := (world.drawBytes randomTextLength).2.withTokens
    (world.stores.tokens.answer world.now (.deleteByOwner user.id app.id)).2
  have left : cleared.record? (service.tokenDigest world.nextText) =
      world.recordBut? user.id app.id (service.tokenDigest world.nextText) :=
    world.record?_answer (.tokens (.deleteByOwner user.id app.id)) (service.tokenDigest world.nextText)
  have finishes (session : Session) (record : NewRefreshToken) :
      outcome (service.storeReplacing user app (session, record)) (world.drawBytes randomTextLength).2 =
        outcome (service.tokens (.create record) >>= fun _ => pure session) cleared :=
    Operation.outcome_bind_of_ok (service.outcome_tokens (.deleteByOwner user.id app.id) _) _
  constructor
  · intro session deadline taken
    rcases Option.isSome_iff_exists.mp taken with ⟨other, taken⟩
    rw [finishes, Operation.outcome_bind, service.outcome_create_of_taken cleared _ (left.trans taken)]
  · intro session deadline free
    rcases service.outcome_create_of_new cleared (service.recordFor user app world.nextText deadline)
      (left.trans free) with ⟨later, created, placed⟩
    rw [finishes, Operation.outcome_bind_of_ok created]
    exact ⟨later, rfl, (placed _).trans (if_pos rfl)⟩

theorem stored_storeExchanging {token : String} {stored : RefreshToken}
    (presented : world.record? (service.tokenDigest token) = some stored) :
    service.Stored world user app (service.storeExchanging (service.tokenDigest token))
      (world.record? (service.tokenDigest world.nextText)) := by
  let drawn := (world.drawBytes randomTextLength).2
  constructor
  · intro session deadline taken
    rcases Option.isSome_iff_exists.mp taken with ⟨other, taken⟩
    have refused := service.outcome_create_of_taken drawn (service.recordFor user app world.nextText deadline) taken
    unfold storeExchanging
    rw [Operation.outcome_bind, refused]
  · intro session deadline free
    rcases service.outcome_create_of_new drawn (service.recordFor user app world.nextText deadline) free with
      ⟨later, created, placed⟩
    -- The record that was presented is not the new one, and so it is there to be removed.
    have different : service.tokenDigest world.nextText ≠ service.tokenDigest token := by
      intro same
      rw [same, presented] at free
      cases free
    have there : later.record? (service.tokenDigest token) = some stored :=
      (placed _).trans ((if_neg different).trans presented)
    have removed : (later.answer (.tokens (.deleteByToken (service.tokenDigest token)))).1 = .ok (1 : Nat) := by
      have replied := Option.some.inj (later.deleteByToken_reply (service.tokenDigest token) .carriedOut)
      rw [there] at replied
      exact replied
    exists (later.answer (.tokens (.deleteByToken (service.tokenDigest token)))).2
    constructor
    · unfold storeExchanging
      dsimp only
      rw [Operation.outcome_bind_of_ok created]
      unfold attempt
      rw [Operation.outcome_bind, Operation.outcome_attempt, removed]
      rfl
    · have kept := later.record?_answer (.tokens (.deleteByToken (service.tokenDigest token)))
        (service.tokenDigest world.nextText)
      exact kept.trans ((if_neg different.symm).trans ((placed _).trans (if_pos rfl)))

/-- A login or a refresh that is entitled comes down to opening a session and storing it. -/
theorem Entitles.exists_finish {operation : Operation Session} {inTheWay : Option RefreshToken}
    (entitles : service.Entitles world user app operation inTheWay) :
    ∃ finish, outcome operation world =
        outcome (service.issueSession user app (world.stores.credentials.isAdmin user.id app.id) >>= finish) world ∧
      service.Stored world user app finish inTheWay := by
  cases entitles with
  | login email password appId admits =>
    exists service.storeReplacing user app
    constructor
    · exact outcome_login_of_admits admits
    · exact stored_storeReplacing
  | refresh token stored honours =>
    exists service.storeExchanging (service.tokenDigest token)
    constructor
    · exact outcome_refresh_of_honours honours
    · exact stored_storeExchanging honours.presented

/-- What a login or a refresh that is entitled comes to when no store call goes wrong. -/
def ExactOrRefused (service : Service) (world later : World) (user : User) (app : App)
    (inTheWay : Option RefreshToken) : Except Error Session -> Prop
  | .ok session => service.auth.Reaches world.now ∧ inTheWay = none ∧
      service.ExpiresExactly world later user app session
  | .error error =>
      (¬service.auth.Reaches world.now ∧ error = .internal ∧ later.stores = world.stores) ∨
        (service.auth.Reaches world.now ∧ inTheWay.isSome = true ∧ error = TokenStore.tokenTaken)

theorem exactOrRefused_of_entitles {operation : Operation Session} {inTheWay : Option RefreshToken}
    (entitles : service.Entitles world user app operation inTheWay) :
    service.ExactOrRefused world (outcome operation world).2 user app inTheWay (outcome operation world).1 := by
  rcases entitles.exists_finish with ⟨finish, same, stored⟩
  rw [same]
  by_cases reaches : service.auth.Reaches world.now
  · rw [outcome_opening_of_reaches _ finish reaches]
    cases inTheWay with
    | some other =>
      rw [stored.refused _ _ rfl]
      exact .inr ⟨reaches, rfl, rfl⟩
    | none =>
      rcases stored.handedOut _ _ rfl with ⟨later, ended, placed⟩
      rw [ended]
      exact ⟨reaches, rfl, ⟨rfl, rfl, placed⟩⟩
  · rw [outcome_opening_of_beyond _ finish reaches]
    exact .inl ⟨reaches, rfl, rfl⟩

/-- Where every store call is carried out, a login or a refresh that is entitled runs as if it were alone. -/
theorem Entitles.outcome_eq {operation : Operation Session} {inTheWay : Option RefreshToken}
    (entitles : service.Entitles world user app operation inTheWay) {mishaps : Mishaps}
    (carriedOut : forall number, (Course.under (some service.auth.storeTimeout) (mishaps number)).ending = .carriedOut)
    {calls : List StoreCall} {answer : Except Error Session} {later : Passage}
    (ran : Program.runUnder mishaps operation.run ⟨world, calls⟩ = (answer, later)) :
    outcome operation world = (answer, later.world) := by
  have alone : (Program.runUnder mishaps operation.run ⟨world, calls⟩).1 = (outcome operation world).1 ∧
      (Program.runUnder mishaps operation.run ⟨world, calls⟩).2.world = (outcome operation world).2 := by
    cases entitles with
    | login email password appId _ =>
      exact (service.heeds_login email password appId).runUnder_of_carriedOut carriedOut ⟨world, calls⟩
    | refresh token _ _ => exact (service.heeds_refresh token).runUnder_of_carriedOut carriedOut ⟨world, calls⟩
  rw [ran] at alone
  exact Prod.ext alone.1.symm alone.2.symm

/-- A login with valid credentials or a refresh with a valid token, no call of
which goes wrong, opens a session exactly where both expiries are in range, and
then they are the exact sums.  Otherwise it fails and the stores are as before.
With settings that were accepted this does not happen until the year 9989. -/
theorem expiries_are_exact_or_refused {operation : Operation Session} {inTheWay : Option RefreshToken}
    {mishaps : Mishaps} {passage later : Passage} {answer : Except Error Session}
    (entitles : service.Entitles passage.world user app operation inTheWay)
    (carriedOut : forall number, (Course.under (some service.auth.storeTimeout) (mishaps number)).ending = .carriedOut)
    (ran : Program.runUnder mishaps operation.run passage = (answer, later)) :
    service.ExactOrRefused passage.world later.world user app inTheWay answer ∧
      (inTheWay = none -> ((∃ session, answer = .ok session) ↔ service.auth.Reaches passage.world.now)) ∧
      forall words environment settings, Settings.read words environment = .ok settings ->
        service.auth = settings.auth -> 1970 ≤ (Calendar.momentOf passage.world.now).year ->
        (Calendar.momentOf passage.world.now).year ≤ 9988 -> answer ≠ .error .internal := by
  have exact := exactOrRefused_of_entitles entitles
  rw [entitles.outcome_eq carriedOut ran] at exact
  constructor
  · exact exact
  constructor
  · rintro rfl
    constructor
    · rintro ⟨session, rfl⟩
      exact exact.1
    · intro reaches
      cases answer with
      | ok session => exact ⟨session, rfl⟩
      | error error =>
        rcases exact with ⟨beyond, _⟩ | ⟨_, taken, _⟩
        · exact absurd reaches beyond
        · cases taken
  · intro words environment settings read same first last failed
    have reaches : service.auth.Reaches passage.world.now := by
      rw [same]
      exact AuthSettings.reaches_of_lifetimesInBounds (Settings.lifetimesInBounds_of_read read) first last
    rw [failed] at exact
    rcases exact with ⟨beyond, _⟩ | ⟨_, _, taken⟩
    · exact beyond reaches
    · cases taken

end Service

namespace Sample

def user : User := (credentials.findUserByEmail email).get (by decide +kernel)

def app : App := (credentials.apps[(1 : AppId)]?).get (by decide +kernel)

/-- Some settings are given as arguments and the others in the environment. -/
def arguments : List String := ["--database-url", "sso", "--access-token-ttl-secs=60"]

def environment (name : String) : Option String :=
  if name = "SSO_REFRESH_TOKEN_TTL_DAYS" then some "1"
  else if name = "SSO_STORE_TIMEOUT_MS" then some "1000" else none

/-- A service whose refresh tokens would outlive the calendar. -/
def boundless : Service :=
  ⟨primitives, ⟨60, 9223372036854775807, 1000⟩, ⟨8, 1, 1⟩⟩

/-- A login to the first service, and a refresh with its token at the second. -/
def opened : Except Error Session × Passage :=
  Program.runUnder Mishaps.nothing (service.login email password 1).run ⟨world, []⟩

def unopened : Except Error Session × Passage :=
  Program.runUnder Mishaps.nothing (boundless.refresh token).run ⟨loggedIn, []⟩

end Sample

/-- The login comes to a session with exact expiries, under settings that were accepted, and the refresh
whose token would outlive the calendar changes nothing. -/
theorem expiries_are_exact_or_refused_of_boundless :
    Sample.service.Entitles Sample.world Sample.user Sample.app
        (Sample.service.login Sample.email Sample.password 1) none ∧
      (forall number, (Course.under (some 1000) (Mishaps.nothing number)).ending = .carriedOut) ∧
      (∃ session, Sample.opened.1 = .ok session ∧
        Sample.service.ExpiresExactly Sample.world Sample.opened.2.world Sample.user Sample.app session) ∧
      (∃ settings, Settings.read Sample.arguments Sample.environment = .ok settings ∧
        Sample.service.auth = settings.auth ∧ Sample.opened.1 ≠ .error .internal) ∧
      Sample.boundless.Entitles Sample.loggedIn Sample.user Sample.app
        (Sample.boundless.refresh Sample.token) none ∧
      Sample.unopened.1 = .error .internal ∧ Sample.unopened.2.world.stores = Sample.loggedIn.stores := by
  have facts : Sample.world.stores.credentials.findUserByEmail Sample.email = some Sample.user ∧
      Password.verify Sample.primitives Sample.password Sample.user.passwordHash = true ∧
      Sample.world.stores.credentials.apps[(1 : AppId)]? = some Sample.app ∧ Sample.app.enabled = true ∧
      Sample.world.recordBut? Sample.user.id Sample.app.id
        (Sample.service.tokenDigest Sample.world.nextText) = none ∧
      Sample.service.auth.Reaches Sample.world.now ∧ ¬Sample.boundless.auth.Reaches Sample.loggedIn.now ∧
      1970 ≤ (Calendar.momentOf Sample.world.now).year ∧ (Calendar.momentOf Sample.world.now).year ≤ 9988 := by
    decide +kernel
  have more : (∃ stored ∈ Sample.loggedIn.record? (Sample.boundless.tokenDigest Sample.token),
        stored.isExpiredAt Sample.loggedIn.now = false ∧
        Sample.loggedIn.stores.credentials.users[stored.userId]? = some Sample.user ∧
        Sample.loggedIn.stores.credentials.apps[stored.appId]? = some Sample.app) ∧
      Sample.loggedIn.record? (Sample.boundless.tokenDigest Sample.loggedIn.nextText) = none := by
    decide +kernel
  rcases facts with ⟨holder, verified, active, enabled, unused, reaches, beyond, first, last⟩
  rcases more with ⟨⟨stored, presented, alive, owner, issuer⟩, new⟩
  have login : Sample.service.Entitles Sample.world Sample.user Sample.app
      (Sample.service.login Sample.email Sample.password 1) none := by
    rw [← unused]
    exact .login Sample.email Sample.password 1 ⟨holder, verified, active, enabled⟩
  have refresh : Sample.boundless.Entitles Sample.loggedIn Sample.user Sample.app
      (Sample.boundless.refresh Sample.token) none := by
    rw [← new]
    exact .refresh Sample.token stored ⟨presented, alive, owner, issuer, enabled⟩
  have carriedOut (number : Nat) : (Course.under (some 1000) (Mishaps.nothing number)).ending = .carriedOut := rfl
  have opens := Service.expiries_are_exact_or_refused login carriedOut
    (show Program.runUnder Mishaps.nothing _ ⟨Sample.world, []⟩ = (Sample.opened.1, Sample.opened.2) from rfl)
  have refuses := Service.expiries_are_exact_or_refused refresh carriedOut
    (show Program.runUnder Mishaps.nothing _ ⟨Sample.loggedIn, []⟩ = (Sample.unopened.1, Sample.unopened.2) from rfl)
  rcases opens with ⟨exact, decided, configured⟩
  rcases (decided rfl).mpr reaches with ⟨session, opened⟩
  rw [opened] at exact
  have accepted : ∃ settings ∈ (Settings.read Sample.arguments Sample.environment).toOption,
      Sample.service.auth = settings.auth := by decide +kernel
  rcases accepted with ⟨settings, read, same⟩
  have read := eq_ok_of_toOption read
  have untouched : Sample.unopened.1 = .error .internal ∧
      Sample.unopened.2.world.stores = Sample.loggedIn.stores := by
    rcases refuses with ⟨refused, _, _⟩
    rcases answered : Sample.unopened.1 with error | session
    · rw [answered] at refused
      rcases refused with ⟨_, rfl, kept⟩ | ⟨within, _⟩
      · exact ⟨rfl, kept⟩
      · exact absurd within beyond
    · rw [answered] at refused
      exact absurd refused.1 beyond
  exact ⟨login, carriedOut, ⟨session, opened, exact.2.2⟩,
    ⟨settings, read, same, configured _ _ settings read same first last⟩, refresh, untouched⟩

end SingleSignOn

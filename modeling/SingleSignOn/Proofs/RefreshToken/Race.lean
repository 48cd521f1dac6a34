import Mathlib.Data.List.Pairwise
import SingleSignOn.Proofs.Program.Conduct
import SingleSignOn.Proofs.RefreshToken.Lineage

namespace SingleSignOn

/-!
# A race of refreshes

Any number of refreshes are called with one token at the same time.  Each of
them stores a token of its own before it removes the presented one, and the
one that finds it there wins.  The others find nothing to remove and take
their own tokens back, or have found nothing in the first place.  So a winner
is there as soon as anybody loses, and when all have ended, the token of the
winner is all that is new.
-/

/-- The token of a record is stored, its user is there and its app is enabled. -/
structure Refreshable (service : Service) (world : World) (token : String) (record : RefreshToken) : Prop where
  filed : world.stores.credentials.IsFiled
  stored : world.record? (service.tokenDigest token) = some record
  user : ∃ user, world.stores.credentials.users[record.userId]? = some user
  app : ∃ app, world.stores.credentials.apps[record.appId]? = some app ∧ app.enabled = true

/-- The lifetimes of the two tokens of a session are counted from one instant. -/
def Service.Dated (service : Service) (session : Session) (deadline : Instant) : Prop :=
  ∃ issuedAt, AccessToken.expiry? service.auth.accessTokenLifetime issuedAt = some session.expiresAt ∧
    service.refreshDeadline? issuedAt = some deadline

/-- An operation is about to issue a session. -/
def Service.Issues (service : Service) (rest : Program (Except Error Session)) : Prop :=
  ∃ user app isAdmin, ∃ answer : Session × NewRefreshToken -> Operation Session,
    rest = (service.issueSession user app isAdmin >>= answer).run

/-- A refresh issues a session only when it can be issued. -/
def System.IssuesInTime (service : Service) (system : System) (event : Event) : Prop :=
  forall number ending token rest, event = .proceed number ending ->
    system.processes[number]? = some ⟨.refresh token, rest⟩ -> service.Issues rest ->
    service.CanIssueAt system.world.now

/-- How far a refresh has got in a race. -/
inductive Position where
  /-- It has not looked the presented token up. -/
  | seeking
  /-- It has found the record of the presented token. -/
  | running
  /-- It has drawn a token of its own. -/
  | minted (own : NewRefreshToken)
  /-- It has stored its own token. -/
  | placed (own : NewRefreshToken)
  /-- It has found the presented token gone. -/
  | beaten (own : NewRefreshToken)
  /-- It has removed the presented token. -/
  | won (own : NewRefreshToken)
  | lost

namespace Position

/-- The position after a reply. -/
def replied : Position -> (request : StoreCall) -> Option (Except Error request.Reply) -> Position
  | .seeking, .tokens (.find _), some (.ok none) => .lost
  | .seeking, .tokens (.find _), some (.ok (some _)) => .running
  | .minted own, .tokens (.create _), some (.ok _) => .placed own
  | .placed own, .tokens (.deleteByToken _), some (.ok 0) => .beaten own
  | .placed own, .tokens (.deleteByToken _), some (.ok (_ + 1)) => .won own
  | .beaten _, .tokens (.deleteByToken _), _ => .lost
  | position, _, _ => position

/-- The store calls of a refresh at a position. -/
def asks (digest : String) : Position -> StoreCall -> Prop
  | .seeking, request => request = .tokens (.find digest)
  | .running, request => request.IsLookup
  | .minted own, request => request = .tokens (.create own)
  | .placed _, request => request = .tokens (.deleteByToken digest)
  | .beaten own, request => request = .tokens (.deleteByToken own.digest)
  | .won _, _ => False
  | .lost, _ => False

/-- What a refresh draws is a token for the user and the app of the presented one. -/
def draws (service : Service) (record : RefreshToken) : Position -> Bytes -> Position -> Prop
  | .running, bytes, after => ∃ expiresAt,
    after = .minted ⟨service.tokenDigest (Service.textOf bytes), record.userId, record.appId, expiresAt⟩
  | _, _, _ => False

/-- How a refresh ends at a position. -/
def ends (service : Service) : Position -> Except Error Session -> Prop
  | .won own, .ok session =>
    own.digest = service.tokenDigest session.refreshToken ∧ service.Dated session own.expiresAt
  | .lost, .error error => error = .invalidCredentials
  | _, _ => False

/-- A world in which a refresh goes on at a position. -/
structure Meets (service : Service) (start : World) (token : String) (record : RefreshToken)
    (position : Position) (rest : Program (Except Error Session)) (world : World) : Prop where
  unchanged : world.stores.credentials = start.stores.credentials
  presented : forall found, world.record? (service.tokenDigest token) = some found -> found = record
  unexpired : record.isExpiredAt world.now = false
  issuable : service.Issues rest -> service.CanIssueAt world.now
  free : forall own, position = .minted own -> world.record? own.digest = none

end Position

/-- The moves of a refresh between positions. -/
def Service.race (service : Service) (start : World) (token : String) (record : RefreshToken) :
    Conduct Position (Except Error (ServiceCall.refresh token).Reply) where
  discipline := {
    allows := Position.asks (service.tokenDigest token)
    looks := fun position => position = .running
    replied := Position.replied
    drew := Position.draws service record }
  meets := Position.Meets service start token record
  fits := Position.ends service

namespace Service

open Operation

variable {Stage α : Type} {conduct : Conduct Stage (Except Error α)} {stage : Stage} (service : Service)

/-- A session is issued where its expiries can be represented. -/
theorem keeps_issueSession (user : User) (app : App) (isAdmin : Bool)
    (continuation : Session × NewRefreshToken -> Operation α) (looks : conduct.discipline.looks stage)
    (issues : forall world, conduct.meets stage (service.issueSession user app isAdmin >>= continuation).run world ->
      service.CanIssueAt world.now)
    (drawn : forall bytes accessToken expiresAt deadline,
      service.Dated ⟨accessToken, textOf bytes, expiresAt⟩ deadline ->
      ∃ after, conduct.discipline.drew stage bytes after ∧
        Keeps conduct (continuation (⟨accessToken, textOf bytes, expiresAt⟩,
          ⟨service.tokenDigest (textOf bytes), user.id, app.id, deadline⟩)) after) :
    Keeps conduct (service.issueSession user app isAdmin >>= continuation) stage := by
  unfold issueSession at issues ⊢
  rw [bind_assoc] at issues ⊢
  refine keeps_now _ looks fun world met => ?_
  have can := issues world met
  rcases Option.isSome_iff_exists.mp can.1 with ⟨expiresAt, expiry⟩
  rcases Option.isSome_iff_exists.mp can.2 with ⟨deadline, due⟩
  have signed : ∃ accessToken claims, AccessToken.issue service.primitives
      ⟨user.id, user.email, app.id, isAdmin⟩ app.secret service.auth.accessTokenLifetime world.now =
        .ok (accessToken, claims) ∧ claims.expiresAt = expiresAt := by
    unfold AccessToken.issue
    rw [expiry]
    exact ⟨_, _, rfl, rfl⟩
  rcases signed with ⟨accessToken, claims, signed, rfl⟩
  rw [signed]
  rw [show service.auth.refreshTokenLifetime?.bind world.now.addSeconds? = some deadline from due]
  exact fun bytes => drawn bytes accessToken claims.expiresAt deadline ⟨world.now, expiry, due⟩

variable {start : World} {token : String} {record : RefreshToken}

theorem keeps_refresh (refreshable : Refreshable service start token record) :
    Keeps (service.race start token record) (service.refresh token) .seeking := by
  rcases refreshable.user with ⟨user, foundUser⟩
  rcases refreshable.app with ⟨app, foundApp, enabled⟩
  unfold Service.refresh
  refine keeps_call _ _ _ rfl fun world met => ⟨world.record? (service.tokenDigest token), rfl, ?_⟩
  cases found : world.record? (service.tokenDigest token) with
  | none => exact rfl
  | some stored =>
    cases met.presented stored found
    refine keeps_now _ rfl fun world met => ?_
    rw [met.unexpired]
    refine keeps_call _ _ _ trivial fun world met => ⟨some user, ?_, ?_⟩
    · show some (Except.ok world.stores.credentials.users[record.userId]?) = _
      rw [met.unchanged, foundUser]
    dsimp only
    unfold Service.activeApp
    rw [bind_assoc]
    refine keeps_call _ _ _ trivial fun world met => ⟨some app, ?_, ?_⟩
    · show some (Except.ok world.stores.credentials.apps[record.appId]?) = _
      rw [met.unchanged, foundApp]
    rw [pure_bind, Option.filter_some_pos enabled]
    dsimp only
    refine keeps_call _ _ _ trivial fun world met => ⟨_, rfl, ?_⟩
    refine service.keeps_issueSession user app _ _ rfl (fun world met => met.issuable ⟨_, _, _, _, rfl⟩) ?_
    intro bytes accessToken expiresAt deadline dated
    refine ⟨_, ⟨deadline, rfl⟩, ?_⟩
    rw [refreshable.filed.users _ _ foundUser, refreshable.filed.apps _ _ foundApp]
    refine keeps_call _ _ _ rfl fun world met => ⟨(), world.create_reply _ (met.free _ rfl), ?_⟩
    refine keeps_attempt _ _ _ rfl fun world met => ?_
    rw [world.deleteByToken_reply]
    cases world.record? (service.tokenDigest token) with
    | some stored => exact ⟨_, rfl, rfl, dated⟩
    | none => exact ⟨_, rfl, keeps_attempt _ _ _ rfl fun world met =>
        ⟨_, world.deleteByToken_reply _ .carriedOut, rfl⟩⟩

end Service

/-! ## What has become of the tokens -/

namespace Position

/-- The token that a refresh has drawn and not taken back. -/
def own? : Position -> Option NewRefreshToken
  | .minted own => some own
  | .placed own => some own
  | .beaten own => some own
  | .won own => some own
  | _ => none

/-- The token that a refresh has stored and not taken back. -/
def stored? : Position -> Option NewRefreshToken
  | .placed own => some own
  | .beaten own => some own
  | .won own => some own
  | _ => none

def isWon : Position -> Bool
  | .won _ => true
  | _ => false

/-- Whether the presented token was removed when a refresh came to a position. -/
def isDecided : Position -> Bool
  | .beaten _ => true
  | .won _ => true
  | .lost => true
  | _ => false

/-- Two refreshes have not drawn the same token. -/
def Apart (one other : Position) : Prop :=
  ∀ own ∈ one.own?, ∀ another ∈ other.own?, own.digest ≠ another.digest

theorem Apart.symm {one other : Position} (apart : one.Apart other) : other.Apart one :=
  fun own mine another theirs => (apart another theirs own mine).symm

instance : Std.Symm Apart := ⟨fun _ _ => Apart.symm⟩

theorem own?_of_stored? {position : Position} {own : NewRefreshToken} (stored : own ∈ position.stored?) :
    own ∈ position.own? := by
  cases position <;> first | exact stored | cases stored

theorem isDecided_of_isWon (position : Position) (won : position.isWon = true) : position.isDecided = true := by
  cases position <;> first | rfl | cases won

end Position

/-- The presented token is there as long as nobody has won or lost, and when
it is gone, there is one winner. -/
def Decided (record : RefreshToken) (found : Option RefreshToken) (positions : List Position) : Prop :=
  (found = some record ∧ ∀ position ∈ positions, position.isDecided = false) ∨
    (found = none ∧ positions.countP Position.isWon = 1)

namespace Decided

variable {record : RefreshToken} {found : Option RefreshToken} {position later : Position}
  {positions others : List Position}

theorem congr (decided : Decided record found positions) (same : others.Perm positions) :
    Decided record found others := by
  rcases decided with ⟨there, undecided⟩ | ⟨gone, one⟩
  · exact .inl ⟨there, fun other member => undecided other (same.mem_iff.mp member)⟩
  · exact .inr ⟨gone, (same.countP_eq _).trans one⟩

/-- Nobody wins at a step that finds the presented token gone or decides nothing. -/
theorem step (decided : Decided record found (position :: others)) (won : later.isWon = position.isWon)
    (loses : later.isDecided = true -> found = none) : Decided record found (later :: others) := by
  rcases decided with ⟨there, undecided⟩ | ⟨gone, one⟩
  · refine .inl ⟨there, fun other member => ?_⟩
    rcases List.mem_cons.mp member with rfl | old
    · by_contra! decided
      cases there.symm.trans (loses ((Bool.not_eq_false _).mp decided))
    · exact undecided other (List.mem_cons_of_mem _ old)
  · refine .inr ⟨gone, ?_⟩
    rw [List.countP_cons] at one ⊢
    rw [won]
    exact one

/-- Whoever has won or lost shows that the presented token is gone. -/
theorem gone_of_isDecided (decided : Decided record found positions) (member : position ∈ positions)
    (so : position.isDecided = true) : found = none := by
  rcases decided with ⟨_, undecided⟩ | ⟨gone, _⟩
  · cases (undecided position member).symm.trans so
  · exact gone

/-- Who removes the presented token is the only winner. -/
theorem win (decided : Decided record (some record) (position :: others)) (own : NewRefreshToken) :
    Decided record none (.won own :: others) := by
  rcases decided with ⟨_, undecided⟩ | ⟨gone, _⟩
  · refine .inr ⟨rfl, ?_⟩
    have nobody : others.countP Position.isWon = 0 := by
      refine List.countP_eq_zero.mpr fun other member won => ?_
      cases (undecided other (List.mem_cons_of_mem _ member)).symm.trans (other.isDecided_of_isWon won)
    rw [List.countP_cons, nobody]
    rfl
  · cases gone

end Decided

/-- What a race has made of the world so far. -/
structure Raced (service : Service) (start : World) (token : String) (record : RefreshToken)
    (past : List (ServiceCall × Bytes)) (world : World) (positions : List Position) : Prop where
  unchanged : world.stores.credentials = start.stores.credentials
  apart : positions.Pairwise Position.Apart
  /-- A refresh has a token for the owner of the presented one, and has drawn it in the race. -/
  owned : ∀ position ∈ positions, ∀ own ∈ position.own?, own.owner = record.owner ∧
    own.digest ∈ (ServiceCall.tokensOf past).map service.tokenDigest
  stored : ∀ position ∈ positions, ∀ own ∈ position.stored?, ∃ createdAt,
    world.record? own.digest = some ⟨own.digest, own.userId, own.appId, own.expiresAt, createdAt⟩
  /-- Whatever else is stored was stored before the race. -/
  spared : forall digest, digest ≠ service.tokenDigest token ->
    (∀ position ∈ positions, ∀ own ∈ position.stored?, own.digest ≠ digest) ->
    world.record? digest = start.record? digest
  decided : Decided record (world.record? (service.tokenDigest token)) positions

namespace Raced

variable {service : Service} {start : World} {token : String} {record : RefreshToken}
  {past : List (ServiceCall × Bytes)} {world next : World} {positions others : List Position}
  {position later : Position}

/-- The order of the refreshes does not matter. -/
theorem congr (raced : Raced service start token record past world positions) (same : others.Perm positions) :
    Raced service start token record past world others := by
  have member {position : Position} : position ∈ others ↔ position ∈ positions := same.mem_iff
  refine ⟨raced.unchanged, (same.pairwise_iff fun apart => apart.symm).mpr raced.apart,
    fun position listed => raced.owned position (member.mp listed),
    fun position listed => raced.stored position (member.mp listed),
    fun digest other nobody => raced.spared digest other fun position listed => nobody position (member.mpr listed),
    raced.decided.congr same⟩

/-- Draws only ever account for more. -/
theorem extend (raced : Raced service start token record past world positions)
    (draws : List (ServiceCall × Bytes)) :
    Raced service start token record (past ++ draws) world positions := by
  refine ⟨raced.unchanged, raced.apart, fun position listed own mine => ?_, raced.stored, raced.spared,
    raced.decided⟩
  rcases raced.owned position listed own mine with ⟨owner, drawn⟩
  refine ⟨owner, ?_⟩
  rw [ServiceCall.tokensOf_append, List.map_append]
  exact List.mem_append_left _ drawn

/-- The world may change where a race does not look. -/
theorem frame (raced : Raced service start token record past world positions)
    (same : next.stores = world.stores) : Raced service start token record past next positions := by
  have records (digest : String) : next.record? digest = world.record? digest := by
    rw [World.record?, same, World.record?]
  refine ⟨(congrArg Stores.credentials same).trans raced.unchanged, raced.apart, raced.owned, ?_, ?_, ?_⟩
  · intro position listed own stored
    rw [records]
    exact raced.stored position listed own stored
  · intro digest other nobody
    rw [records]
    exact raced.spared digest other nobody
  · rw [records]
    exact raced.decided

/-- A refresh begins. -/
theorem join (raced : Raced service start token record past world positions) :
    Raced service start token record past world (.seeking :: positions) := by
  refine ⟨raced.unchanged, List.pairwise_cons.mpr ⟨fun _ _ => nofun, raced.apart⟩, ?_, ?_, ?_, ?_⟩
  · exact List.forall_mem_cons.mpr ⟨nofun, raced.owned⟩
  · exact List.forall_mem_cons.mpr ⟨nofun, raced.stored⟩
  · exact fun digest other nobody => raced.spared digest other (List.forall_mem_cons.mp nobody).2
  · rcases raced.decided with ⟨there, undecided⟩ | ⟨gone, one⟩
    · exact .inl ⟨there, List.forall_mem_cons.mpr ⟨rfl, undecided⟩⟩
    · exact .inr ⟨gone, one⟩

/-- What a refresh has drawn was not stored before the race. -/
theorem absent (raced : Raced service start token record past world positions)
    (unused : service.Unused start [] (ServiceCall.tokensOf past)) (member : position ∈ positions)
    {own : NewRefreshToken} (mine : own ∈ position.own?) : start.record? own.digest = none := by
  rcases List.mem_map.mp (raced.owned position member own mine).2 with ⟨text, drawn, same⟩
  rw [← same]
  exact unused.unstored text drawn

/-- What a refresh has drawn is not the presented token. -/
theorem ne_presented (raced : Raced service start token record past world positions)
    (refreshable : Refreshable service start token record)
    (unused : service.Unused start [] (ServiceCall.tokensOf past)) (member : position ∈ positions)
    {own : NewRefreshToken} (mine : own ∈ position.own?) : own.digest ≠ service.tokenDigest token := by
  intro same
  have absent := raced.absent unused member mine
  rw [same, refreshable.stored] at absent
  cases absent

/-- Nobody has stored what a refresh is about to store. -/
theorem free (raced : Raced service start token record past world positions)
    (refreshable : Refreshable service start token record)
    (unused : service.Unused start [] (ServiceCall.tokensOf past)) {own : NewRefreshToken}
    (member : .minted own ∈ positions) : world.record? own.digest = none := by
  rw [raced.spared own.digest (raced.ne_presented refreshable unused member rfl), raced.absent unused member rfl]
  intro other listed another stored same
  have different : other ≠ .minted own := by
    rintro rfl
    cases stored
  have apart := raced.apart.forall listed member different
  exact apart another (Position.own?_of_stored? stored) own rfl same

/-- A refresh draws its token. -/
theorem mint {bytes : Bytes} (deadline : Instant)
    (unused : service.Unused start [] (ServiceCall.tokensOf (past ++ [(.refresh token, bytes)])))
    (raced : Raced service start token record past world (.running :: others)) :
    Raced service start token record (past ++ [(.refresh token, bytes)]) world
      (.minted ⟨service.tokenDigest (Service.textOf bytes), record.userId, record.appId, deadline⟩ :: others) := by
  have more : ServiceCall.tokensOf (past ++ [(.refresh token, bytes)]) =
      ServiceCall.tokensOf past ++ [Service.textOf bytes] :=
    ServiceCall.tokensOf_append past _
  have distinct := unused.distinct
  rw [more, List.map_append, List.nodup_append] at distinct
  have extended := raced.extend [(.refresh token, bytes)]
  rcases List.pairwise_cons.mp raced.apart with ⟨_, apart⟩
  refine ⟨raced.unchanged, List.pairwise_cons.mpr ⟨?_, apart⟩,
    List.forall_mem_cons.mpr ⟨?_, (List.forall_mem_cons.mp extended.owned).2⟩,
    List.forall_mem_cons.mpr ⟨nofun, (List.forall_mem_cons.mp raced.stored).2⟩, ?_,
    raced.decided.step rfl nofun⟩
  · rintro other listed own ⟨⟩ another theirs same
    have drawn := (raced.owned other (List.mem_cons_of_mem _ listed) another theirs).2
    exact distinct.2.2 _ drawn _ (List.mem_map_of_mem List.mem_cons_self) same.symm
  · rintro own ⟨⟩
    refine ⟨rfl, ?_⟩
    rw [more, List.map_append]
    exact List.mem_append_right _ (List.mem_map_of_mem List.mem_cons_self)
  · exact fun digest different nobody => raced.spared digest different
      (List.forall_mem_cons.mpr ⟨nofun, (List.forall_mem_cons.mp nobody).2⟩)

/-- A refresh that goes on with the token that it has stays apart from the others. -/
theorem apart_step (raced : Raced service start token record past world (position :: others))
    (own : later.own? = position.own?) : (later :: others).Pairwise Position.Apart := by
  rcases List.pairwise_cons.mp raced.apart with ⟨apart, others⟩
  refine List.pairwise_cons.mpr ⟨fun other listed => ?_, others⟩
  unfold Position.Apart
  rw [own]
  exact apart other listed

theorem owned_step (raced : Raced service start token record past world (position :: others))
    (own : later.own? = position.own?) :
    ∀ position ∈ later :: others, ∀ own ∈ position.own?, own.owner = record.owner ∧
      own.digest ∈ (ServiceCall.tokensOf past).map service.tokenDigest := by
  rcases List.forall_mem_cons.mp raced.owned with ⟨owned, owns⟩
  refine List.forall_mem_cons.mpr ⟨?_, owns⟩
  rw [own]
  exact owned

variable (refreshable : Refreshable service start token record)
  (unused : service.Unused start [] (ServiceCall.tokensOf past))

include refreshable unused

/-- A refresh goes on with what it has drawn and stored, and touches the presented token at most. -/
theorem turn (raced : Raced service start token record past world (position :: others))
    (own : later.own? = position.own?) (stored : later.stored? = position.stored?)
    (unchanged : next.stores.credentials = world.stores.credentials)
    (records : forall digest, digest ≠ service.tokenDigest token -> next.record? digest = world.record? digest)
    (decided : Decided record (next.record? (service.tokenDigest token)) (later :: others)) :
    Raced service start token record past next (later :: others) := by
  refine ⟨unchanged.trans raced.unchanged, raced.apart_step own, raced.owned_step own, ?_,
    fun digest different nobody => ?_, decided⟩
  · have kept : ∀ other ∈ position :: others, ∀ own ∈ other.stored?, ∃ createdAt,
        next.record? own.digest = some ⟨own.digest, own.userId, own.appId, own.expiresAt, createdAt⟩ := by
      intro other listed own mine
      rw [records _ (raced.ne_presented refreshable unused listed (Position.own?_of_stored? mine))]
      exact raced.stored other listed own mine
    rw [List.forall_mem_cons, stored]
    exact List.forall_mem_cons.mp kept
  · rw [records digest different]
    refine raced.spared digest different (List.forall_mem_cons.mpr ?_)
    rw [← stored]
    exact List.forall_mem_cons.mp nobody

variable {own : NewRefreshToken}

/-- A refresh stores its token. -/
theorem store (raced : Raced service start token record past world (.minted own :: others)) :
    Raced service start token record past (world.endCall (.tokens (.create own)) .carriedOut).2
      (.placed own :: others) := by
  have free := raced.free refreshable unused List.mem_cons_self
  have foreign := raced.ne_presented refreshable unused List.mem_cons_self rfl
  rcases List.pairwise_cons.mp raced.apart with ⟨apart, _⟩
  refine ⟨raced.unchanged, raced.apart_step rfl, raced.owned_step rfl, List.forall_mem_cons.mpr ⟨?_, ?_⟩,
    fun digest different nobody => ?_, ?_⟩
  · rintro other ⟨⟩
    exact ⟨world.now, world.record?_create_self own free⟩
  · intro other listed another stored
    rw [world.record?_create_of_ne own .carriedOut
      (apart other listed own rfl another (Position.own?_of_stored? stored)).symm]
    exact raced.stored other (List.mem_cons_of_mem _ listed) another stored
  · rcases List.forall_mem_cons.mp nobody with ⟨mine, theirs⟩
    rw [world.record?_create_of_ne own .carriedOut (mine own rfl).symm]
    exact raced.spared digest different (List.forall_mem_cons.mpr ⟨nofun, theirs⟩)
  · rw [world.record?_create_of_ne own .carriedOut foreign.symm]
    exact raced.decided.step rfl nofun

/-- A refresh that was beaten removes its own token. -/
theorem takeBack (raced : Raced service start token record past world (.beaten own :: others)) :
    Raced service start token record past
      (world.endCall (.tokens (.deleteByToken own.digest)) .carriedOut).2 (.lost :: others) := by
  have foreign := raced.ne_presented refreshable unused List.mem_cons_self rfl
  rcases List.pairwise_cons.mp raced.apart with ⟨apart, theirs⟩
  refine ⟨raced.unchanged, List.pairwise_cons.mpr ⟨fun _ _ => nofun, theirs⟩,
    List.forall_mem_cons.mpr ⟨nofun, (List.forall_mem_cons.mp raced.owned).2⟩,
    List.forall_mem_cons.mpr ⟨nofun, ?_⟩, fun digest different nobody => ?_, ?_⟩
  · intro other listed another stored
    rw [world.record?_deleteByToken_of_ne _ _
      (apart other listed own rfl another (Position.own?_of_stored? stored)).symm]
    exact raced.stored other (List.mem_cons_of_mem _ listed) another stored
  · by_cases same : digest = own.digest
    · rw [same, world.record?_deleteByToken rfl]
      exact (raced.absent unused List.mem_cons_self rfl).symm
    · rw [world.record?_deleteByToken_of_ne _ _ same]
      refine raced.spared digest different (List.forall_mem_cons.mpr ⟨?_, (List.forall_mem_cons.mp nobody).2⟩)
      rintro other ⟨⟩ mine
      exact same mine.symm
  · rw [world.record?_deleteByToken_of_ne _ _ foreign.symm]
    exact raced.decided.step rfl fun _ => raced.decided.gone_of_isDecided List.mem_cons_self rfl

/-- A store call of a refresh does to the race what its position tells. -/
theorem called {request : StoreCall} (allowed : position.asks (service.tokenDigest token) request)
    (raced : Raced service start token record past world (position :: others)) :
    Raced service start token record past (world.endCall request .carriedOut).2
      (position.replied request (world.endCall request .carriedOut).1 :: others) := by
  cases position with
  | seeking =>
    cases allowed
    have answered : (world.endCall (.tokens (.find (service.tokenDigest token))) .carriedOut).1 =
        some (.ok (world.record? (service.tokenDigest token))) := rfl
    rw [answered]
    cases found : world.record? (service.tokenDigest token) with
    | none =>
      exact raced.turn refreshable unused rfl rfl rfl (fun _ _ => rfl) (raced.decided.step rfl fun _ => found)
    | some stored => exact raced.turn refreshable unused rfl rfl rfl (fun _ _ => rfl) (raced.decided.step rfl nofun)
  | running => exact raced.frame (world.stores.answer_of_isLookup world.now allowed)
  | minted own =>
    cases allowed
    rw [world.create_reply own (raced.free refreshable unused List.mem_cons_self)]
    exact raced.store refreshable unused
  | placed own =>
    cases allowed
    have kept (digest : String) (different : digest ≠ service.tokenDigest token) :=
      world.record?_deleteByToken_of_ne _ .carriedOut different
    rw [world.deleteByToken_reply]
    rcases raced.decided with ⟨there, _⟩ | ⟨gone, _⟩
    · rw [there]
      refine raced.turn refreshable unused rfl rfl rfl kept ?_
      rw [world.record?_deleteByToken rfl]
      exact (there ▸ raced.decided).win own
    · rw [gone]
      refine raced.turn refreshable unused rfl rfl rfl kept ?_
      rw [world.record?_deleteByToken rfl]
      exact (gone ▸ raced.decided).step rfl fun _ => rfl
  | beaten own =>
    cases allowed
    exact raced.takeBack refreshable unused
  | won own => exact False.elim allowed
  | lost => exact False.elim allowed

/-- Whoever goes on in a race does so in a world as expected. -/
theorem expects {system : System} {event : Event}
    (raced : Raced service start token record past system.world positions)
    (unexpired : record.isExpiredAt system.world.now = false) (issues : system.IssuesInTime service event) :
    (service.race start token record).Expects system event positions := by
  intro number ending rest position told found stands
  refine ⟨raced.unchanged, fun stored there => ?_, unexpired, issues number ending token rest told found, ?_⟩
  · rcases raced.decided with ⟨same, _⟩ | ⟨gone, _⟩
    · exact Option.some.inj (there.symm.trans same)
    · cases there.symm.trans gone
  · rintro own rfl
    exact raced.free refreshable unused (List.mem_of_getElem? stands)

omit unused in
/-- No event breaks what is known of a race. -/
theorem kept {system : System} {event : Event} {later : List Position}
    (move : (service.race start token record).Move .seeking system event positions world later)
    (unused : service.Unused start [] (ServiceCall.tokensOf (past ++ (system.drawn? event).toList)))
    (raced : Raced service start token record past system.world positions) :
    Raced service start token record (past ++ (system.drawn? event).toList) world later := by
  cases move with
  | began => exact (raced.extend _).join.congr List.perm_append_comm
  | clockSet now => exact (raced.extend _).frame rfl
  | stayed => exact raced.extend _
  | drew before position later after bytes drawn moved =>
    rw [drawn] at unused ⊢
    refine congr ?_ List.perm_middle
    cases position with
    | running =>
      rcases moved with ⟨deadline, rfl⟩
      exact mint deadline unused ((raced.congr List.perm_middle.symm).frame rfl)
    | _ => exact False.elim moved
  | called before position after request allowed =>
    exact called refreshable unused allowed ((raced.extend _).congr List.perm_middle.symm) |>.congr
      List.perm_middle

end Raced

/-! ## The end of a race -/

section Ending

variable {service : Service} {start : World} {token : String} {record : RefreshToken}

/-- What is known of a race holds at its end. -/
theorem Raced.run (refreshable : Refreshable service start token record) {events : List Event}
    (orderly : ∀ event ∈ events, event.IsSmooth ∧ ∀ begun ∈ event.begun?, begun = .refresh token)
    (unused : service.Unused start [] ((System.start start).generated service events))
    (unexpired : (System.start start).Throughout service
      (fun system _ => record.isExpiredAt system.world.now = false) events)
    (issues : (System.start start).Throughout service (System.IssuesInTime service) events) :
    ∃ positions,
      (service.race start token record).Runs ((System.start start).run service events).processes positions ∧
      Raced service start token record ((System.start start).draws service events)
        ((System.start start).run service events).world positions := by
  have earlier (past rest : List Event) (told : events = past ++ rest) :
      service.Unused start [] (ServiceCall.tokensOf ((System.start start).draws service past)) := by
    subst told
    rw [System.generated, System.draws_append, ServiceCall.tokensOf_append] at unused
    exact unused.of_append
  refine Conduct.run (service.keeps_refresh refreshable) rfl orderly
    (fun past world positions => Raced service start token record ((System.start start).draws service past)
      world positions) ?_ ?_ ?_
  · exact ⟨rfl, List.Pairwise.nil, fun _ => nofun, fun _ => nofun, fun _ _ _ => rfl,
      .inl ⟨refreshable.stored, fun _ => nofun⟩⟩
  · rintro past event rest positions told raced
    have fresh := earlier past (event :: rest) told
    rw [told] at unexpired issues
    exact raced.expects refreshable fresh (System.throughout_append.mp unexpired).2.1
      (System.throughout_append.mp issues).2.1
  · rintro past event rest before world later told move raced
    rw [System.draws_append_singleton]
    refine raced.kept refreshable move ?_
    rw [← System.draws_append_singleton]
    exact earlier (past ++ [event]) rest (told.trans (List.append_cons _ _ _))

/-- A refresh that is answered has won or lost. -/
theorem ended_of_isFinished (runner : Conduct.Runner (service.race start token record))
    (finished : runner.process.isFinished = true) :
    (∃ own session, runner.stage = .won own ∧ runner.process = ⟨.refresh token, .done (.ok session)⟩ ∧
      own.digest = service.tokenDigest session.refreshToken ∧ service.Dated session own.expiresAt) ∨
    (runner.stage = .lost ∧ runner.process = ⟨.refresh token, .done (.error .invalidCredentials)⟩) := by
  rcases runner with ⟨rest, position, keeps⟩
  obtain ⟨answer, rfl⟩ : ∃ answer, rest = .done answer := by
    rcases Option.isSome_iff_exists.mp finished with ⟨answer, answered⟩
    exact ⟨answer, rest.eq_done_of_result? answer answered⟩
  cases position with
  | won own =>
    cases answer with
    | ok session => exact .inl ⟨own, session, rfl, rfl, keeps⟩
    | error error => exact False.elim keeps
  | lost =>
    cases answer with
    | ok session => exact False.elim keeps
    | error error =>
      cases (show error = .invalidCredentials from keeps)
      exact .inr ⟨rfl, rfl⟩
  | _ => exact False.elim keeps

/-- When everybody but one has lost, the token of that one has taken the place of the presented one. -/
theorem Raced.tokens_eq {past : List (ServiceCall × Bytes)} {world : World} {before after : List Position}
    {own : NewRefreshToken}
    (raced : Raced service start token record past world (before ++ .won own :: after))
    (lost : ∀ position ∈ before ++ after, position = .lost) :
    ∃ createdAt, world.stores.tokens.tokens =
      (start.stores.tokens.tokens.erase (service.tokenDigest token)).insert own.digest
        ⟨own.digest, record.userId, record.appId, own.expiresAt, createdAt⟩ := by
  have winner : .won own ∈ before ++ .won own :: after := List.mem_append_cons_self
  rcases raced.stored _ winner own rfl with ⟨createdAt, stored⟩
  have owner := (raced.owned _ winner own rfl).1
  refine ⟨createdAt, Std.ExtTreeMap.ext_getElem? fun {digest} => ?_⟩
  show world.record? digest = _
  rw [Table.getElem?_insert, Table.getElem?_erase]
  by_cases mine : own.digest = digest
  · rw [if_pos mine, ← mine, stored, show own.userId = record.userId from congrArg Prod.fst owner,
      show own.appId = record.appId from congrArg Prod.snd owner]
  rw [if_neg mine]
  by_cases presented : service.tokenDigest token = digest
  · rw [if_pos presented, ← presented]
    exact raced.decided.gone_of_isDecided winner rfl
  rw [if_neg presented]
  refine raced.spared digest (Ne.symm presented) fun position member other stored => ?_
  rcases List.mem_cons.mp (List.perm_middle.mem_iff.mp member) with rfl | other
  · cases stored
    exact mine
  · rw [lost position other] at stored
    cases stored

/-- When all refreshes of a race are answered and there is one at all, one has won and all others have lost. -/
theorem exists_winner {runners : List (Conduct.Runner (service.race start token record))}
    (finished : ∀ runner ∈ runners, runner.process.isFinished = true) (nonempty : runners ≠ [])
    {found : Option RefreshToken} (decided : Decided record found (runners.map Conduct.Runner.stage)) :
    ∃ before winner after own session, runners = before ++ winner :: after ∧ winner.stage = .won own ∧
      winner.process = ⟨.refresh token, .done (.ok session)⟩ ∧
      own.digest = service.tokenDigest session.refreshToken ∧ service.Dated session own.expiresAt ∧
      ∀ runner ∈ before ++ after, runner.stage = .lost ∧
        runner.process = ⟨.refresh token, .done (.error .invalidCredentials)⟩ := by
  rcases decided with ⟨_, undecided⟩ | ⟨_, one⟩
  · -- The first refresh, say, would have ended undecided.
    rcases List.exists_mem_of_ne_nil runners nonempty with ⟨runner, member⟩
    have open' := undecided runner.stage (List.mem_map_of_mem member)
    rcases ended_of_isFinished runner (finished runner member) with ⟨own, _, won, _⟩ | ⟨lost, _⟩
    · rw [won] at open'
      cases open'
    · rw [lost] at open'
      cases open'
  · rw [List.countP_map] at one
    rcases exists_only_of_countP_eq_one one with ⟨before, winner, after, rfl, won, others⟩
    rcases ended_of_isFinished winner (finished winner List.mem_append_cons_self) with
      ⟨own, session, stage, process, same, dated⟩ | ⟨lost, _⟩
    · refine ⟨before, winner, after, own, session, rfl, stage, process, same, dated, fun runner member => ?_⟩
      have listed : runner ∈ before ++ winner :: after :=
        List.perm_middle.mem_iff.mpr (List.mem_cons_of_mem _ member)
      refine (ended_of_isFinished runner (finished runner listed)).resolve_left ?_
      rintro ⟨_, _, alsoWon, _⟩
      have single : runner.stage.isWon = false := others runner member
      rw [alsoWon] at single
      cases single
    · have single : winner.stage.isWon = true := won
      rw [lost] at single
      cases single

end Ending

/-- A race of refreshes has exactly one winner and leaves nothing else behind.
All calls are refreshes with one token that is stored, for a user that is
there and an app that is enabled.  They come between each other at any store
call, no store call fails, the tokens that are drawn are new, and the clock
stays before the expiry of the token and shows an instant at which a session
can be issued whenever one is.  When all have ended, one has succeeded, the
others were refused, the token of the one is stored instead of the presented
one, with the expiry that it has by its lifetime, and nothing else has
changed. -/
theorem race_has_one_winner (service : Service) (world : World) (events : List Event) (token : String)
    (record : RefreshToken) (count : Nat) (final : System)
    (refreshable : Refreshable service world token record)
    (ran : (System.start world).run service events = final) (smooth : ∀ event ∈ events, event.IsSmooth)
    (calls : final.processes.map Process.call = List.replicate count (.refresh token)) (nonempty : 1 ≤ count)
    (unused : service.Unused world [] ((System.start world).generated service events))
    (unexpired : (System.start world).Throughout service
      (fun system _ => record.isExpiredAt system.world.now = false) events)
    (issues : (System.start world).Throughout service (System.IssuesInTime service) events)
    (settled : final.isSettled = true) :
    ∃ before session after expiresAt createdAt,
      final.processes = before ++ ⟨.refresh token, .done (.ok session)⟩ :: after ∧
      (before ++ after).length = count - 1 ∧
      (∀ process ∈ before ++ after, process = ⟨.refresh token, .done (.error .invalidCredentials)⟩) ∧
      service.Dated session expiresAt ∧
      final.world.stores.tokens.tokens =
        (world.stores.tokens.tokens.erase (service.tokenDigest token)).insert
          (service.tokenDigest session.refreshToken)
          ⟨service.tokenDigest session.refreshToken, record.userId, record.appId, expiresAt, createdAt⟩ ∧
      final.world.stores.credentials = world.stores.credentials := by
  have orderly : ∀ event ∈ events, event.IsSmooth ∧ ∀ begun ∈ event.begun?, begun = .refresh token := by
    refine fun event member => ⟨smooth event member, fun begun begins => ?_⟩
    rw [← ran, System.calls_run] at calls
    refine List.eq_of_mem_replicate (calls ▸ List.mem_append_right _ ?_)
    exact List.mem_filterMap.mpr ⟨event, member, begins⟩
  rcases Raced.run refreshable orderly unused unexpired issues with ⟨positions, ⟨runners, listed, rfl⟩, raced⟩
  rw [ran] at listed raced
  have finished : ∀ runner ∈ runners, runner.process.isFinished = true := by
    intro runner member
    refine List.all_eq_true.mp settled _ ?_
    rw [listed]
    exact List.mem_map_of_mem member
  have counted : runners.length = count := by
    have lengths := congrArg List.length calls
    rwa [listed, List.length_map, List.length_map, List.length_replicate] at lengths
  have inhabited : runners ≠ [] := by
    rintro rfl
    rw [← counted] at nonempty
    exact Nat.not_succ_le_zero 0 nonempty
  rcases exists_winner finished inhabited raced.decided with
    ⟨before, winner, after, own, session, rfl, won, handed, same, dated, lost⟩
  rw [List.map_append, List.map_cons, won] at raced
  have others : ∀ position ∈ before.map Conduct.Runner.stage ++ after.map Conduct.Runner.stage,
      position = .lost := by
    intro position member
    rw [← List.map_append] at member
    rcases List.mem_map.mp member with ⟨runner, among, rfl⟩
    exact (lost runner among).1
  rcases raced.tokens_eq others with ⟨createdAt, tokens⟩
  rw [same] at tokens
  refine ⟨before.map Conduct.Runner.process, session, after.map Conduct.Runner.process, own.expiresAt, createdAt,
    ?_, ?_, ?_, dated, tokens, raced.unchanged⟩
  · rw [listed, List.map_append, List.map_cons, handed]
  · rw [← counted, ← List.map_append, List.length_map, List.length_append, List.length_append, List.length_cons]
    omega
  · intro process member
    rw [← List.map_append] at member
    rcases List.mem_map.mp member with ⟨runner, among, rfl⟩
    exact (lost runner among).2

namespace Sample

/-- The record of the token. -/
def record : RefreshToken := ⟨service.tokenDigest token, 1, 1, ⟨86400000000000⟩, ⟨0⟩⟩

/-- The user holds the token for the app. -/
def holding : World :=
  { world with
    stores := ⟨credentials, ⟨TokenStore.empty.tokens.insert record.digest record⟩⟩
    draws := 1 }

/-- Two refreshes go on in turns, and another one comes when one of them has won. -/
def rivals : List Event :=
  List.replicate 2 (.begin (.refresh token)) ++
    (List.replicate 10 [.proceed 0 .carriedOut, .proceed 1 .carriedOut]).flatten ++
    .begin (.refresh token) :: [.proceed 2 .carriedOut]

/-- The end of the race. -/
def finish : System := (System.start holding).run service rivals

theorem refreshable : Refreshable service holding token record :=
  ⟨isFiled, by decide +kernel, ⟨_, rfl⟩, ⟨_, rfl, rfl⟩⟩

end Sample

/-- Of three refreshes, one wins, one takes its own token back and one finds nothing. -/
theorem race_has_one_winner_of_three :
    Refreshable Sample.service Sample.holding Sample.token Sample.record ∧
      (∀ event ∈ Sample.rivals, event.IsSmooth) ∧
      Sample.finish.processes.map Process.call = List.replicate 3 (.refresh Sample.token) ∧
      Sample.service.Unused Sample.holding []
        ((System.start Sample.holding).generated Sample.service Sample.rivals) ∧
      (System.start Sample.holding).Throughout Sample.service
        (fun system _ => Sample.record.isExpiredAt system.world.now = false) Sample.rivals ∧
      (System.start Sample.holding).Throughout Sample.service (System.IssuesInTime Sample.service)
        Sample.rivals ∧
      Sample.finish.isSettled = true ∧
      ∃ before session after expiresAt createdAt,
        Sample.finish.processes = before ++ ⟨.refresh Sample.token, .done (.ok session)⟩ :: after ∧
        (before ++ after).length = 2 ∧
        (∀ process ∈ before ++ after,
          process = ⟨.refresh Sample.token, .done (.error .invalidCredentials)⟩) ∧
        Sample.service.Dated session expiresAt ∧
        Sample.finish.world.stores.tokens.tokens =
          (Sample.holding.stores.tokens.tokens.erase (Sample.service.tokenDigest Sample.token)).insert
            (Sample.service.tokenDigest session.refreshToken)
            ⟨Sample.service.tokenDigest session.refreshToken, 1, 1, expiresAt, createdAt⟩ ∧
        Sample.finish.world.stores.credentials = Sample.holding.stores.credentials := by
  have observed : (∀ event ∈ Sample.rivals, event.IsSmooth) ∧
      Sample.finish.processes.map Process.call = List.replicate 3 (.refresh Sample.token) ∧
      (((System.start Sample.holding).generated Sample.service Sample.rivals).map
        Sample.service.tokenDigest).Nodup ∧
      (∀ token ∈ (System.start Sample.holding).generated Sample.service Sample.rivals,
        Sample.holding.record? (Sample.service.tokenDigest token) = none) ∧
      (System.start Sample.holding).Throughout Sample.service
        (fun system _ => Sample.record.isExpiredAt system.world.now = false) Sample.rivals ∧
      (System.start Sample.holding).Throughout Sample.service
        (fun system _ => Sample.service.CanIssueAt system.world.now) Sample.rivals ∧
      Sample.finish.isSettled = true := by
    decide +kernel
  rcases observed with ⟨smooth, calls, distinct, unstored, unexpired, issuable, settled⟩
  have unused : Sample.service.Unused Sample.holding []
      ((System.start Sample.holding).generated Sample.service Sample.rivals) :=
    ⟨distinct, unstored, fun _ _ _ none => absurd none List.not_mem_nil⟩
  have issues : (System.start Sample.holding).Throughout Sample.service
      (System.IssuesInTime Sample.service) Sample.rivals :=
    issuable.mono fun _ _ can _ _ _ _ _ _ _ => can
  exact ⟨Sample.refreshable, smooth, calls, unused, unexpired, issues, settled,
    race_has_one_winner Sample.service Sample.holding Sample.rivals Sample.token Sample.record 3 Sample.finish
      Sample.refreshable rfl smooth calls (by decide) unused unexpired issues settled⟩

end SingleSignOn

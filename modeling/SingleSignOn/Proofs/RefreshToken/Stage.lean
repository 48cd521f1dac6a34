import SingleSignOn.Proofs.Program.Interleaving
import SingleSignOn.Proofs.Service.Kinds
import SingleSignOn.Proofs.Store.TokenCalls

namespace SingleSignOn

/-!
# The way of a refresh token through a call

What a call has to do with refresh tokens is told by the stage it has
reached: what it has looked up, the token it drew for itself, and whether
that token is stored, taken back or given out.  `lifecycle` says which store
calls each kind of call makes at which stage, and `follows_program` that
every call of the service keeps to it, whatever its store calls answer.

Statements about any number of calls over one world need only these stages
and not the programs behind them.
-/

/-- What a call has learned from its look-ups. -/
structure Findings where
  /-- The record of the presented refresh token. -/
  presented : Option RefreshToken
  user : Option User
  app : Option App

/-- How far a call has got with a refresh token. -/
inductive Stage where
  /-- Nothing but look-ups so far. -/
  | asking (findings : Findings)
  /-- A token is drawn and not stored. -/
  | minted (findings : Findings) (record : NewRefreshToken)
  /-- A login has revoked the earlier tokens and is about to store its own. -/
  | opening (record : NewRefreshToken)
  /-- A login has stored its token. -/
  | opened (record : NewRefreshToken)
  /-- A refresh has stored its token and is about to remove the presented one. -/
  | placed (findings : Findings) (record : NewRefreshToken)
  /-- A refresh found the presented token gone and is about to take its own back. -/
  | beaten (record : NewRefreshToken)
  /-- A refresh goes on to give its token out.  It may have failed to remove the presented one. -/
  | rotated (record : NewRefreshToken) (removed : Bool)
  /-- The presented token was to be removed, and nothing else. -/
  | removed (count : Nat)
  /-- Nothing is left to do but to end. -/
  | ending

namespace Stage

/-- A call at its beginning. -/
def start : Stage := .asking ⟨none, none, none⟩

/-- The stage after a reply. -/
def replied : Stage -> (request : StoreCall) -> Option (Except Error request.Reply) -> Stage
  | .asking findings, .tokens (.find _), some (.ok presented) =>
    .asking { findings with presented := presented }
  | .asking findings, .credentials (.findUserByEmail _), some (.ok user) =>
    .asking { findings with user := user }
  | .asking findings, .credentials (.findUserById _), some (.ok user) =>
    .asking { findings with user := user }
  | .asking findings, .credentials (.findAppById _), some (.ok app) =>
    .asking { findings with app := app }
  | .asking _, .tokens (.deleteByToken _), some (.ok count) => .removed count
  | .asking _, .tokens (.deleteByToken _), _ => .ending
  | .minted _ record, .tokens (.deleteByOwner _ _), some (.ok _) => .opening record
  | .minted findings record, .tokens (.create _), some (.ok _) => .placed findings record
  | .minted _ _, _, _ => .ending
  | .opening record, _, some (.ok _) => .opened record
  | .opening _, _, _ => .ending
  | .placed _ record, .tokens (.deleteByToken _), some (.ok 0) => .beaten record
  | .placed _ record, .tokens (.deleteByToken _), some (.ok (_ + 1)) => .rotated record true
  | .placed _ record, _, _ => .rotated record false
  | .beaten _, _, _ => .ending
  | stage, _, _ => stage

/-- A call at this stage may fail: it has no token of its own in the stores,
and a login that revoked the earlier tokens has tried to store its own. -/
def IsIdle : Stage -> Prop
  | .asking _ => True
  | .minted _ _ => True
  | .removed _ => True
  | .ending => True
  | _ => False

end Stage

/-- The store calls that neither store nor name a single refresh token. -/
def StoreCall.IsPlain : StoreCall -> Prop
  | .credentials _ => True
  | .tokens (.deleteByUser _) => True
  | .tokens (.deleteByApp _) => True
  | .tokens (.deleteExpired _) => True
  | .tokens _ => False

/-- A call that only looks things up goes on doing so, unless it removes a token. -/
theorem Stage.replied_asking (findings : Findings) {request : StoreCall}
    (other : forall gone, request ≠ .tokens (.deleteByToken gone))
    (reply : Option (Except Error request.Reply)) :
    ∃ later, Stage.replied (.asking findings) request reply = .asking later := by
  cases request with
  | credentials call =>
    match reply with
    | none => cases call <;> exact ⟨_, rfl⟩
    | some (.error error) => cases call <;> exact ⟨_, rfl⟩
    | some (.ok value) => cases call <;> exact ⟨_, rfl⟩
  | tokens call =>
    cases call with
    | deleteByToken gone => exact absurd rfl (other gone)
    | find digest =>
      match reply with
      | none => exact ⟨_, rfl⟩
      | some (.error error) => exact ⟨_, rfl⟩
      | some (.ok found) => exact ⟨_, rfl⟩
    | _ => exact ⟨findings, rfl⟩

/-- A refresh comes to give its token out only from where it has stored it. -/
theorem Stage.eq_of_replied_eq_rotated {stage : Stage} {request : StoreCall}
    {reply : Option (Except Error request.Reply)} {record : NewRefreshToken} {removed : Bool}
    (same : stage.replied request reply = .rotated record removed) :
    stage = .rotated record removed ∨ ∃ findings, stage = .placed findings record := by
  unfold Stage.replied at same
  split at same <;> first | exact .inl same | (cases same; exact .inr ⟨_, rfl⟩) | cases same

theorem StoreCall.IsPlain.ne_deleteByToken {request : StoreCall} (plain : request.IsPlain)
    (gone : String) :
    request ≠ .tokens (.deleteByToken gone) := by
  rintro rfl
  exact plain

namespace ServiceCall

/-- A login, a refresh or a logout: a call that is about one refresh token. -/
def isAboutToken : ServiceCall -> Bool
  | .login _ _ _ => true
  | .refresh _ => true
  | .logout _ => true
  | _ => false

/-- The look-ups of a call, and the removals that need no token of its own. -/
def asks (service : Service) (findings : Findings) : ServiceCall -> StoreCall -> Prop
  | .login email _ _, .credentials (.findUserByEmail asked) => asked = email
  | .login _ _ appId, .credentials (.findAppById asked) => asked = appId
  | .login _ _ _, .credentials (.isAdmin _ _) => True
  | .login _ _ _, _ => False
  | .refresh token, .tokens (.find digest) => digest = service.tokenDigest token
  | .refresh token, .tokens (.deleteByToken digest) => digest = service.tokenDigest token
  | .refresh _, .credentials (.findUserById asked) =>
    ∃ presented, findings.presented = some presented ∧ asked = presented.userId
  | .refresh _, .credentials (.findAppById asked) =>
    ∃ presented, findings.presented = some presented ∧ asked = presented.appId
  | .refresh _, .credentials (.isAdmin _ _) => True
  | .refresh _, _ => False
  | .logout token, .tokens (.deleteByToken digest) => digest = service.tokenDigest token
  | .logout _, _ => False
  | _, request => request.IsPlain

/-- No call stores a token while it only looks things up. -/
theorem created?_of_asks {service : Service} {findings : Findings} {call : ServiceCall}
    {request : StoreCall} (allowed : call.asks service findings request) :
    request.created? = none := by
  rcases request with _ | ⟨token⟩ | _ | _ | _ | _ | _ | _
  case tokens.create => cases call <;> exact False.elim allowed
  all_goals rfl

/-- The store calls of a call at a stage. -/
inductive Allows (service : Service) : ServiceCall -> Stage -> StoreCall -> Prop where
  | asked {call : ServiceCall} {findings : Findings} {request : StoreCall}
    (asks : call.asks service findings request) : Allows service call (.asking findings) request
  | revoked {email password : String} {appId : AppId} {findings : Findings} {record : NewRefreshToken} :
    Allows service (.login email password appId) (.minted findings record)
      (.tokens (.deleteByOwner record.userId record.appId))
  | opened {email password : String} {appId : AppId} {record : NewRefreshToken} :
    Allows service (.login email password appId) (.opening record) (.tokens (.create record))
  | placed {token : String} {findings : Findings} {record : NewRefreshToken} :
    Allows service (.refresh token) (.minted findings record) (.tokens (.create record))
  | exchanged {token : String} {findings : Findings} {record : NewRefreshToken} :
    Allows service (.refresh token) (.placed findings record)
      (.tokens (.deleteByToken (service.tokenDigest token)))
  | takenBack {token : String} {record : NewRefreshToken} :
    Allows service (.refresh token) (.beaten record) (.tokens (.deleteByToken record.digest))

/-- The stages after a draw.  A login and a refresh draw the token that they
are to give out, for the user and the app that they have found. -/
inductive Draws (service : Service) : ServiceCall -> Stage -> Bytes -> Stage -> Prop where
  | minted {call : ServiceCall} {findings : Findings} {bytes : Bytes} {user : User} {app : App}
    {expiresAt : Instant} (opens : call.opensSession = true) (foundUser : findings.user = some user)
    (foundApp : findings.app = some app) :
    Draws service call (.asking findings) bytes
      (.minted findings ⟨service.tokenDigest (Service.textOf bytes), user.id, app.id, expiresAt⟩)
  | unrelated {call : ServiceCall} {findings : Findings} {bytes : Bytes} (other : call.opensSession = false) :
    Draws service call (.asking findings) bytes (.asking findings)

/-- The moves of a call between stages. -/
def lifecycle (service : Service) (call : ServiceCall) : Discipline Stage where
  allows := call.Allows service
  looks stage := ∃ findings, stage = .asking findings
  replied := Stage.replied
  drew := call.Draws service

/-- The stage in which a call ends with an answer.  A call that has a token
of its own in the stores ends only by giving it out or taking it back. -/
def fits (service : Service) : (call : ServiceCall) -> Stage -> Except Error call.Reply -> Prop
  | .login _ _ _, stage, .ok session =>
    ∃ record, stage = .opened record ∧ record.digest = service.tokenDigest session.refreshToken
  | .refresh _, stage, .ok session =>
    ∃ record removed, stage = .rotated record removed ∧
      record.digest = service.tokenDigest session.refreshToken
  | .logout _, stage, .ok revoked => ∃ count, stage = .removed count ∧ revoked = decide (0 < count)
  | _, stage, _ => stage.IsIdle

/-- A call that is answered is idle or has given its token out. -/
theorem fits_cases {service : Service} {call : ServiceCall} {stage : Stage}
    {answer : Except Error call.Reply} (ended : fits service call stage answer) :
    stage.IsIdle ∨ (∃ record, stage = .opened record) ∨
    ∃ record removed, stage = .rotated record removed := by
  unfold fits at ended
  split at ended
  · rcases ended with ⟨record, same, _⟩
    exact .inr (.inl ⟨record, same⟩)
  · rcases ended with ⟨record, removed, same, _⟩
    exact .inr (.inr ⟨record, removed, same⟩)
  · rcases ended with ⟨count, rfl, _⟩
    exact .inl trivial
  · exact .inl ended

end ServiceCall

namespace Service

variable {Stage : Type} (discipline : Discipline Stage)

theorem follows_randomText (success : Stage -> String -> Prop) (failure : Stage -> Error -> Prop)
    (stage : Stage) :
    Operation.Follows discipline (Operation.ofProgram randomText) success failure stage ↔
      forall bytes, ∃ after, discipline.drew stage bytes after ∧ success after (textOf bytes) :=
  Iff.rfl

/-- The refresh token of a new session is drawn last, for the user and the
app that the session is for. -/
theorem follows_issueSession (service : Service) (user : User) (app : App) (isAdmin : Bool)
    (success : Stage -> Session × NewRefreshToken -> Prop) (failure : Stage -> Error -> Prop)
    (stage : Stage) (looks : discipline.looks stage) (failed : forall error, failure stage error)
    (drawn : forall bytes accessToken expiresAt deadline, ∃ after, discipline.drew stage bytes after ∧
      success after (⟨accessToken, textOf bytes, expiresAt⟩,
        ⟨service.tokenDigest (textOf bytes), user.id, app.id, deadline⟩)) :
    Operation.Follows discipline (service.issueSession user app isAdmin) success failure stage := by
  simp only [issueSession, Operation.follows_bind, Operation.follows_now, Operation.follows_orFail,
    Operation.follows_result, follows_randomText, Operation.follows_pure]
  refine ⟨looks, fun now => ?_⟩
  refine ⟨fun issued _ => ⟨fun deadline _ bytes => ?_, fun _ => failed _⟩,
    fun error _ => failed error⟩
  exact drawn bytes issued.1 issued.2.expiresAt deadline

end Service

namespace ServiceCall

variable (service : Service) (call : ServiceCall) (stage : Stage)

/-- A call fails in an idle stage. -/
def failsIdle (stage : Stage) (_ : Error) : Prop := stage.IsIdle

theorem follows_credentials (request : CredentialCall) (success : Stage -> request.Reply -> Prop)
    (allowed : call.Allows service stage (.credentials request))
    (failed : forall error, (stage.replied (.credentials request) (some (.error error))).IsIdle)
    (late : (stage.replied (.credentials request) none).IsIdle)
    (answered : forall value, success (stage.replied (.credentials request) (some (.ok value))) value) :
    Operation.Follows (lifecycle service call) (service.credentials request) success failsIdle stage :=
  (Operation.follows_call _ _ _ _ (.credentials request) success).mpr
    ⟨allowed, answered, failed, late⟩

theorem follows_tokens (request : TokenCall) (success : Stage -> request.Reply -> Prop)
    (allowed : call.Allows service stage (.tokens request))
    (failed : forall error, (stage.replied (.tokens request) (some (.error error))).IsIdle)
    (late : (stage.replied (.tokens request) none).IsIdle)
    (answered : forall value, success (stage.replied (.tokens request) (some (.ok value))) value) :
    Operation.Follows (lifecycle service call) (service.tokens request) success failsIdle stage :=
  (Operation.follows_call _ _ _ _ (.tokens request) success).mpr
    ⟨allowed, answered, failed, late⟩

theorem follows_attempt (request : StoreCall)
    (success : Stage -> Except Error request.Reply -> Prop)
    (allowed : call.Allows service stage request)
    (answered : forall answer, success (stage.replied request (some answer)) answer)
    (late : success (stage.replied request none) (.error .timeout)) :
    Operation.Follows (lifecycle service call) (service.attempt request) success failsIdle stage :=
  (Operation.follows_attempt _ _ _ _ request success).mpr ⟨allowed, answered, late⟩

theorem follows_activeApp (appId : AppId) (success : Stage -> Option App -> Prop)
    (allowed : call.Allows service stage (.credentials (.findAppById appId)))
    (failed : forall error,
      (stage.replied (.credentials (.findAppById appId)) (some (.error error))).IsIdle)
    (late : (stage.replied (.credentials (.findAppById appId)) none).IsIdle)
    (absent : forall found,
      success (stage.replied (.credentials (.findAppById appId)) (some (.ok found))) none)
    (active : forall app : App,
      success (stage.replied (.credentials (.findAppById appId)) (some (.ok (some app)))) (some app)) :
    Operation.Follows (lifecycle service call) (service.activeApp appId) success failsIdle stage := by
  unfold Service.activeApp
  rw [Operation.follows_bind]
  refine follows_credentials service call stage (.findAppById appId) _ allowed failed late
    fun found => ?_
  cases found with
  | none => exact absent none
  | some app =>
    by_cases enabled : app.enabled = true
    · simpa only [Option.filter, if_pos enabled, Operation.follows_pure] using active app
    · simpa only [Option.filter, if_neg enabled, Operation.follows_pure] using absent (some app)

theorem follows_login (email password : String) (appId : AppId) :
    Operation.Follows (lifecycle service (.login email password appId)) (service.login email password appId)
      (fun after session => fits service (.login email password appId) after (.ok session)) failsIdle
      .start := by
  unfold Service.login
  rw [Operation.follows_bind]
  refine follows_credentials _ _ _ (.findUserByEmail email) _ (.asked rfl)
    (fun _ => trivial) trivial fun found => ?_
  rcases found with _ | user
  · trivial
  dsimp only
  split
  · trivial
  rw [Operation.follows_bind]
  refine follows_activeApp _ _ _ appId _ (.asked rfl) (fun _ => trivial) trivial (fun _ => trivial)
    fun app => ?_
  rw [Operation.follows_bind]
  refine follows_credentials _ _ _ (.isAdmin user.id app.id) _ (.asked trivial)
    (fun _ => trivial) trivial fun isAdmin => ?_
  rw [Operation.follows_bind]
  refine Service.follows_issueSession _ service user app isAdmin _ _ _ ⟨_, rfl⟩ (fun _ => trivial)
    fun bytes accessToken expiresAt deadline => ?_
  refine ⟨.minted ⟨none, some user, some app⟩
    ⟨service.tokenDigest (Service.textOf bytes), user.id, app.id, deadline⟩, .minted rfl rfl rfl, ?_⟩
  rw [Operation.follows_bind]
  refine follows_tokens _ _ _ (.deleteByOwner user.id app.id) _ .revoked
    (fun _ => trivial) trivial fun _ => ?_
  rw [Operation.follows_bind]
  refine follows_tokens _ _ _ (.create _) _ .opened (fun _ => trivial) trivial fun _ => ?_
  exact ⟨_, rfl, rfl⟩

theorem follows_refresh (token : String) :
    Operation.Follows (lifecycle service (.refresh token)) (service.refresh token)
      (fun after session => fits service (.refresh token) after (.ok session)) failsIdle .start := by
  unfold Service.refresh
  rw [Operation.follows_bind]
  refine follows_tokens _ _ _ (.find (service.tokenDigest token)) _ (.asked rfl)
    (fun _ => trivial) trivial
    fun found => ?_
  rcases found with _ | presented
  · trivial
  dsimp only
  rw [Operation.follows_bind, Operation.follows_now]
  refine ⟨⟨_, rfl⟩, fun now => ?_⟩
  split
  · rw [Operation.follows_bind]
    refine follows_attempt _ _ _ (.tokens (.deleteByToken (service.tokenDigest token))) _
      (.asked rfl)
      (fun answer => ?_) trivial
    cases answer <;> trivial
  rw [Operation.follows_bind]
  refine follows_credentials _ _ _ (.findUserById presented.userId) _ (.asked ⟨presented, rfl, rfl⟩)
    (fun _ => trivial) trivial fun found => ?_
  rcases found with _ | user
  · trivial
  dsimp only
  rw [Operation.follows_bind]
  refine follows_activeApp _ _ _ presented.appId _ (.asked ⟨presented, rfl, rfl⟩)
    (fun _ => trivial) trivial
    (fun _ => trivial) fun app => ?_
  rw [Operation.follows_bind]
  refine follows_credentials _ _ _ (.isAdmin user.id app.id) _ (.asked trivial)
    (fun _ => trivial) trivial fun isAdmin => ?_
  rw [Operation.follows_bind]
  refine Service.follows_issueSession _ service user app isAdmin _ _ _ ⟨_, rfl⟩ (fun _ => trivial)
    fun bytes accessToken expiresAt deadline => ?_
  refine ⟨.minted ⟨some presented, some user, some app⟩
    ⟨service.tokenDigest (Service.textOf bytes), user.id, app.id, deadline⟩, .minted rfl rfl rfl, ?_⟩
  rw [Operation.follows_bind]
  refine follows_tokens _ _ _ (.create _) _ .placed (fun _ => trivial) trivial fun _ => ?_
  rw [Operation.follows_bind]
  refine follows_attempt _ _ _ (.tokens (.deleteByToken (service.tokenDigest token))) _ .exchanged
    (fun answer => ?_) ⟨_, _, rfl, rfl⟩
  match answer with
  | .error error => exact ⟨_, _, rfl, rfl⟩
  | .ok (count + 1) => exact ⟨_, _, rfl, rfl⟩
  | .ok 0 =>
    refine (Operation.follows_bind _ _ _ _ (service.attempt (.tokens (.deleteByToken _)))
      (fun _ => throw .invalidCredentials)).mpr ?_
    exact follows_attempt _ _ _ (.tokens (.deleteByToken _)) _ .takenBack (fun _ => trivial) trivial

theorem follows_logout (token : String) :
    Operation.Follows (lifecycle service (.logout token)) (service.logout token)
      (fun after revoked => fits service (.logout token) after (.ok revoked)) failsIdle .start := by
  unfold Service.logout
  rw [Operation.follows_bind]
  refine follows_tokens _ _ _ (.deleteByToken (service.tokenDigest token)) _ (.asked rfl)
    (fun _ => trivial) trivial
    fun count => ?_
  exact ⟨count, rfl, rfl⟩

/-! ## Calls that are not about a refresh token -/

/-- A call that is not about a refresh token neither stores one nor names one. -/
theorem callsOnly_of_isAboutToken (different : call.isAboutToken = false) :
    (service.program call).CallsOnly StoreCall.IsPlain := by
  refine .mono (fun request made => ?_) (callsOnly_makes service call)
  cases made <;> trivial

/-- A program of plain calls only ever looks things up, as its stages see it. -/
theorem follows_of_callsOnly (different : call.isAboutToken = false)
    (program : Program (Except Error call.Reply)) (plain : program.CallsOnly StoreCall.IsPlain)
    (findings : Findings) :
    program.Follows (lifecycle service call) (fits service call) (.asking findings) := by
  induction program generalizing findings with
  | done result => cases call <;> trivial
  | call patience request next hypothesis =>
    refine ⟨.asked ?_, fun reply => ?_⟩
    · cases call <;> first | exact plain.1 | cases different
    · obtain ⟨later, same⟩ := Stage.replied_asking findings plain.1.ne_deleteByToken reply
      show (next reply).Follows _ _ (Stage.replied (.asking findings) request reply)
      rw [same]
      exact hypothesis reply (plain.2 reply) later
  | clock next hypothesis => exact ⟨⟨findings, rfl⟩, fun now => hypothesis now (plain now) findings⟩
  | draw count next hypothesis =>
    intro bytes
    refine ⟨.asking findings, .unrelated ?_, hypothesis bytes (plain bytes) findings⟩
    cases call <;> first | rfl | cases different

/-- Every call of the service keeps to the way of a refresh token, whatever its
store calls answer. -/
theorem follows_program :
    (service.program call).Follows (lifecycle service call) (fits service call) .start := by
  cases about : call.isAboutToken with
  | false =>
    exact follows_of_callsOnly service call about _ (callsOnly_of_isAboutToken service call about) _
  | true =>
    cases call with
    | login email password appId =>
      exact (Operation.follows_run _ _ _ _).mpr (follows_login service email password appId)
    | refresh token => exact (Operation.follows_run _ _ _ _).mpr (follows_refresh service token)
    | logout token => exact (Operation.follows_run _ _ _ _).mpr (follows_logout service token)
    | _ => cases about

end ServiceCall

/-- The stages of all calls of a service. -/
def Service.stages (service : Service) : Tracking service Stage where
  discipline := ServiceCall.lifecycle service
  fits := ServiceCall.fits service
  start := .start
  follows := ServiceCall.follows_program service

/-! ## The refresh tokens of a run -/

namespace ServiceCall

/-- The refresh tokens among random bytes that calls have drawn. -/
def tokensOf (draws : List (ServiceCall × Bytes)) : List String :=
  draws.filterMap fun (call, bytes) => if call.opensSession then some (Service.textOf bytes) else none

theorem tokensOf_append (first second : List (ServiceCall × Bytes)) :
    tokensOf (first ++ second) = tokensOf first ++ tokensOf second :=
  List.filterMap_append

/-- How often a refresh token of a digest was drawn. -/
def drawn (service : Service) (digest : String) (draws : List (ServiceCall × Bytes)) : Nat :=
  ((tokensOf draws).map service.tokenDigest).count digest

theorem drawn_append (service : Service) (digest : String)
    (first second : List (ServiceCall × Bytes)) :
    drawn service digest (first ++ second) = drawn service digest first + drawn service digest second := by
  simp only [drawn, tokensOf_append, List.map_append, List.count_append]

theorem drawn_of_opensSession (service : Service) (digest : String) {call : ServiceCall}
    (opens : call.opensSession = true) (bytes : Bytes) :
    drawn service digest [(call, bytes)] =
      if service.tokenDigest (Service.textOf bytes) = digest then 1 else 0 := by
  simp only [drawn, tokensOf, List.filterMap_cons, opens, if_true, List.filterMap_nil,
    List.map_cons, List.map_nil, List.count_singleton, beq_iff_eq]

end ServiceCall

/-- The refresh tokens that are drawn in a run, whether or not they are given out. -/
def System.generated (service : Service) (system : System) (events : List Event) : List String :=
  ServiceCall.tokensOf (system.draws service events)

/-! ## A small deployment -/

namespace Sample

/-- Primitives that are cheap to evaluate: a digest is the text itself. -/
def primitives : Primitives :=
  ⟨id, fun _ _ => [], fun _ password => password.take 10⟩

/-- A service whose refresh tokens live for a day. -/
def service : Service :=
  ⟨primitives, ⟨60, 1, 1000⟩, ⟨8, 1, 1⟩⟩

def email : String := "ann@example.org"

def password : String := "correct horse"

/-- One user and one app. -/
def credentials : CredentialStore :=
  let hash := Password.hash primitives service.cost (List.replicate Password.saltLength 7) password
  ((CredentialStore.empty.createUser ⟨0⟩ ⟨email, hash, Profile.empty⟩).2.createApp ⟨0⟩
    ⟨"app", "secret", ""⟩).2

theorem isFiled : credentials.IsFiled :=
  (CredentialStore.isFiled_empty.createUser _ _).createApp _ _

/-- The bytes of each draw are its number, again and again. -/
def world : World :=
  ⟨⟨credentials, .empty⟩, ⟨0⟩, fun number count => List.replicate count (UInt8.ofNat number), 0⟩

/-- The refresh token that is drawn first. -/
def token : String := Service.textOf (List.replicate Service.randomTextLength 0)

/-- The user logs in.  Then two refreshes with the token go on in turns. -/
def race : List Event :=
  .begin (.login email password 1) :: List.replicate 9 (.proceed 0 .carriedOut) ++
    .begin (.refresh token) :: .begin (.refresh token) ::
      (List.replicate 10 [.proceed 1 .carriedOut, .proceed 2 .carriedOut]).flatten

end Sample

end SingleSignOn

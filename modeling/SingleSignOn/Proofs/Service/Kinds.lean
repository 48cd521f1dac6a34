import SingleSignOn.Proofs.Program.UnderMishaps
import SingleSignOn.Service.Call

namespace SingleSignOn

/-!
# Kinds of calls

Which store calls are made for a call to the service is told once, by `Makes`.
Eight of the calls do nothing but look up users, apps and grants, whatever
they find.  Such a call leaves the stores as they are.  Six
others change users, apps and grants, and leave the refresh tokens as they
are.  A login and a refresh open a session, and what they draw is its refresh
token.
-/

/-- The look-ups of users, apps and grants. -/
def StoreCall.IsLookup : StoreCall -> Prop
  | .credentials (.findUserByEmail _) => True
  | .credentials (.findUserById _) => True
  | .credentials .listUsers => True
  | .credentials (.findAppById _) => True
  | .credentials .listApps => True
  | .credentials (.isAdmin _ _) => True
  | .credentials (.listUsersForApp _) => True
  | .credentials .ping => True
  | .credentials _ => False
  | .tokens _ => False

/-- The store calls about users, apps and grants. -/
def StoreCall.IsCredential : StoreCall -> Prop
  | .credentials _ => True
  | .tokens _ => False

theorem Stores.answer_of_isLookup (stores : Stores) (now : Instant) {request : StoreCall}
    (looks : request.IsLookup) : (stores.answer now request).2 = stores := by
  rcases request with call | call
  · cases call <;> first | rfl | exact False.elim looks
  · exact False.elim looks

namespace Program

variable {α : Type}

/-- A run leaves the clock and the random bytes as they are, and draws some of them. -/
theorem run_frame (program : Program α) (world : World) :
    (program.run world).2.now = world.now ∧ (program.run world).2.entropy = world.entropy ∧
      world.draws ≤ (program.run world).2.draws := by
  induction program generalizing world with
  | done result => exact ⟨rfl, rfl, Nat.le_refl _⟩
  | call patience request next hypothesis => exact hypothesis _ (world.answer request).2
  | clock next hypothesis => exact hypothesis world.now world
  | draw count next hypothesis =>
    obtain ⟨clock, bytes, drawn⟩ := hypothesis (world.drawBytes count).1 (world.drawBytes count).2
    exact ⟨clock, bytes, Nat.le_of_succ_le drawn⟩

theorem run_stores_of_callsOnly {program : Program α} (looks : program.CallsOnly StoreCall.IsLookup)
    (world : World) :
    (program.run world).2.stores = world.stores := by
  refine run_preserves (· = world.stores) looks (fun stores now request looked same => ?_) world rfl
  exact (stores.answer_of_isLookup now looked).trans same

theorem run_tokens_of_callsOnly {program : Program α}
    (only : program.CallsOnly StoreCall.IsCredential) (world : World) :
    (program.run world).2.stores.tokens = world.stores.tokens := by
  refine run_preserves (·.tokens = world.stores.tokens) only (fun stores now request asked same => ?_)
    world rfl
  rcases request with call | call
  · exact same
  · exact False.elim asked

end Program

/-- An operation leaves the clock and the random bytes as they are, and draws some of them. -/
theorem Operation.frame_of_outcome {α : Type} {operation : Operation α} {world later : World}
    {answer : Except Error α} (done : outcome operation world = (answer, later)) :
    later.now = world.now ∧ later.entropy = world.entropy ∧ world.draws ≤ later.draws := by
  have kept := Program.run_frame operation.run world
  have ran : Program.run operation.run world = (answer, later) := done
  rwa [ran] at kept

/-! ## What the calls are made of -/

/-- The store calls that are made for a call to the service. -/
inductive ServiceCall.Makes : ServiceCall -> StoreCall -> Prop where
  | register {email password : String} {profile : Profile} {user : NewUser} :
    Makes (.register email password profile) (.credentials (.createUser user))
  | loginUser {email password : String} {appId : AppId} :
    Makes (.login email password appId) (.credentials (.findUserByEmail email))
  | loginApp {email password : String} {appId : AppId} :
    Makes (.login email password appId) (.credentials (.findAppById appId))
  | loginAdmin {email password : String} {appId : AppId} {userId : UserId} {found : AppId} :
    Makes (.login email password appId) (.credentials (.isAdmin userId found))
  | loginRevokes {email password : String} {appId : AppId} {userId : UserId} {found : AppId} :
    Makes (.login email password appId) (.tokens (.deleteByOwner userId found))
  | loginStores {email password : String} {appId : AppId} {record : NewRefreshToken} :
    Makes (.login email password appId) (.tokens (.create record))
  | refreshFinds {token digest : String} : Makes (.refresh token) (.tokens (.find digest))
  | refreshRemoves {token digest : String} : Makes (.refresh token) (.tokens (.deleteByToken digest))
  | refreshUser {token : String} {userId : UserId} :
    Makes (.refresh token) (.credentials (.findUserById userId))
  | refreshApp {token : String} {appId : AppId} :
    Makes (.refresh token) (.credentials (.findAppById appId))
  | refreshAdmin {token : String} {userId : UserId} {appId : AppId} :
    Makes (.refresh token) (.credentials (.isAdmin userId appId))
  | refreshStores {token : String} {record : NewRefreshToken} :
    Makes (.refresh token) (.tokens (.create record))
  | logout {token digest : String} : Makes (.logout token) (.tokens (.deleteByToken digest))
  | validateToken {token : String} {appId : AppId} :
    Makes (.validateToken token) (.credentials (.findAppById appId))
  | authenticate {token : String} {appId : AppId} :
    Makes (.authenticate token) (.credentials (.findAppById appId))
  | isAdmin {userId : UserId} {appId : AppId} :
    Makes (.isAdmin userId appId) (.credentials (.isAdmin userId appId))
  | userInfo {userId : UserId} : Makes (.userInfo userId) (.credentials (.findUserById userId))
  | listUsers : Makes .listUsers (.credentials .listUsers)
  | updateUserReads {userId : UserId} {change : ProfileChange} :
    Makes (.updateUser userId change) (.credentials (.findUserById userId))
  | updateUser {userId : UserId} {change : ProfileChange} {update : UserUpdate} :
    Makes (.updateUser userId change) (.credentials (.updateUser userId update))
  | updateUserRevokes {userId : UserId} {change : ProfileChange} :
    Makes (.updateUser userId change) (.tokens (.deleteByUser userId))
  | deleteUserRevokes {userId : UserId} : Makes (.deleteUser userId) (.tokens (.deleteByUser userId))
  | deleteUser {userId : UserId} : Makes (.deleteUser userId) (.credentials (.deleteUser userId))
  | createApp {name link : String} {secret : Option String} {app : NewApp} :
    Makes (.createApp name link secret) (.credentials (.createApp app))
  | getApp {appId : AppId} : Makes (.getApp appId) (.credentials (.findAppById appId))
  | listApps : Makes .listApps (.credentials .listApps)
  | updateAppReads {appId : AppId} {name link : Option String} :
    Makes (.updateApp appId name link) (.credentials (.findAppById appId))
  | updateApp {appId : AppId} {name link : Option String} {update : AppUpdate} :
    Makes (.updateApp appId name link) (.credentials (.updateApp appId update))
  | deleteAppRevokes {appId : AppId} : Makes (.deleteApp appId) (.tokens (.deleteByApp appId))
  | deleteApp {appId : AppId} : Makes (.deleteApp appId) (.credentials (.deleteApp appId))
  | listAppUsersReads {appId : AppId} :
    Makes (.listAppUsers appId) (.credentials (.findAppById appId))
  | listAppUsers {appId : AppId} : Makes (.listAppUsers appId) (.credentials (.listUsersForApp appId))
  | setEnabled {appId : AppId} {enabled : Bool} :
    Makes (.setEnabled appId enabled) (.credentials (.setAppEnabled appId enabled))
  | grantAdminUser {userId : UserId} {appId : AppId} :
    Makes (.grantAdmin userId appId) (.credentials (.findUserById userId))
  | grantAdminApp {userId : UserId} {appId : AppId} :
    Makes (.grantAdmin userId appId) (.credentials (.findAppById appId))
  | grantAdmin {userId : UserId} {appId : AppId} :
    Makes (.grantAdmin userId appId) (.credentials (.setAdmin userId appId true))
  | revokeAdmin {userId : UserId} {appId : AppId} :
    Makes (.revokeAdmin userId appId) (.credentials (.removeAdmin userId appId))
  | sweep {before : Instant} : Makes .sweep (.tokens (.deleteExpired before))

namespace Service

variable (service : Service) {allowed : StoreCall -> Prop}

theorem callsOnly_userInfo {userId : UserId} (reads : allowed (.credentials (.findUserById userId))) :
    Operation.CallsOnly allowed (service.userInfo userId) :=
  .bind (Operation.callsOnly_call _ reads) fun _ => Operation.callsOnly_orFail _ _

theorem callsOnly_getApp {appId : AppId} (reads : allowed (.credentials (.findAppById appId))) :
    Operation.CallsOnly allowed (service.getApp appId) :=
  .bind (Operation.callsOnly_call _ reads) fun _ => Operation.callsOnly_orFail _ _

theorem callsOnly_activeApp {appId : AppId} (reads : allowed (.credentials (.findAppById appId))) :
    Operation.CallsOnly allowed (service.activeApp appId) :=
  .bind (Operation.callsOnly_call _ reads) fun _ => trivial

theorem callsOnly_verifyAccess (reads : forall appId, allowed (.credentials (.findAppById appId)))
    (token : String) : (service.verifyAccess token).CallsOnly allowed := by
  refine Program.CallsOnly.bind ?_ fun _ => fun _ => trivial
  unfold Service.verifyToken
  split
  · trivial
  · refine Program.CallsOnly.bind (Program.CallsOnly.bind ?_ fun _ => trivial) fun answer => ?_
    · exact service.callsOnly_activeApp (reads _)
    · match answer with
      | .error cause => trivial
      | .ok none => trivial
      | .ok (some secret) => exact fun _ => trivial

theorem callsOnly_issueSession (user : User) (app : App) (isAdmin : Bool) :
    Operation.CallsOnly allowed (service.issueSession user app isAdmin) := by
  refine .bind (Operation.callsOnly_ofProgram fun _ => trivial) fun now => ?_
  refine .bind trivial fun issued => ?_
  refine .bind (Operation.callsOnly_orFail _ _) fun deadline => ?_
  exact .bind (Operation.callsOnly_ofProgram fun _ => trivial) fun token => trivial

/-! ### Operations of more than one look-up -/

theorem callsOnly_register (email password : String) (profile : Profile) :
    Operation.CallsOnly (ServiceCall.Makes (.register email password profile))
      (service.register email password profile) := by
  unfold Service.register
  dsimp only
  split
  · trivial
  split
  · trivial
  · refine .bind (Operation.callsOnly_ofProgram fun _ => trivial) fun passwordHash => ?_
    exact .bind (Operation.callsOnly_call _ .register) fun _ => trivial

theorem callsOnly_login (email password : String) (appId : AppId) :
    Operation.CallsOnly (ServiceCall.Makes (.login email password appId))
      (service.login email password appId) := by
  unfold Service.login
  refine .bind (Operation.callsOnly_call _ .loginUser) fun found => ?_
  rcases found with _ | user
  · trivial
  dsimp only
  split
  · trivial
  refine .bind (service.callsOnly_activeApp .loginApp) fun active => ?_
  rcases active with _ | app
  · trivial
  refine .bind (Operation.callsOnly_call _ .loginAdmin) fun isAdmin => ?_
  refine .bind (service.callsOnly_issueSession user app isAdmin) fun issued => ?_
  refine .bind (Operation.callsOnly_call _ .loginRevokes) fun _ => ?_
  exact .bind (Operation.callsOnly_call _ .loginStores) fun _ => trivial

theorem callsOnly_refresh (token : String) :
    Operation.CallsOnly (ServiceCall.Makes (.refresh token)) (service.refresh token) := by
  have removes (digest : String) : Operation.CallsOnly (ServiceCall.Makes (.refresh token))
      (service.attempt (.tokens (.deleteByToken digest))) :=
    Operation.callsOnly_ofProgram (Operation.callsOnly_call _ .refreshRemoves)
  unfold Service.refresh
  refine .bind (Operation.callsOnly_call _ .refreshFinds) fun found => ?_
  rcases found with _ | stored
  · trivial
  dsimp only
  refine .bind (Operation.callsOnly_ofProgram fun _ => trivial) fun now => ?_
  split
  · exact .bind (removes _) fun _ => trivial
  refine .bind (Operation.callsOnly_call _ .refreshUser) fun found => ?_
  rcases found with _ | user
  · trivial
  refine .bind (service.callsOnly_activeApp .refreshApp) fun active => ?_
  rcases active with _ | app
  · trivial
  refine .bind (Operation.callsOnly_call _ .refreshAdmin) fun isAdmin => ?_
  refine .bind (service.callsOnly_issueSession user app isAdmin) fun issued => ?_
  refine .bind (Operation.callsOnly_call _ .refreshStores) fun _ => ?_
  refine .bind (removes _) fun answer => ?_
  match answer with
  | .error error => trivial
  | .ok 0 => exact .bind (removes _) fun _ => trivial
  | .ok (_ + 1) => trivial

theorem callsOnly_updateUser (userId : UserId) (change : ProfileChange) :
    Operation.CallsOnly (ServiceCall.Makes (.updateUser userId change))
      (service.updateUser userId change) := by
  have applied (update : UserUpdate) : Operation.CallsOnly (ServiceCall.Makes (.updateUser userId change))
      (if update.isEmpty then service.userInfo userId
      else do
        let found ← service.credentials (.updateUser userId update)
        let user ← Operation.orFail .userNotFound found
        if update.passwordHash.isSome then
          let _ ← service.tokens (.deleteByUser userId)
        return user) := by
    split
    · exact service.callsOnly_userInfo .updateUserReads
    refine .bind (Operation.callsOnly_call _ .updateUser)
      fun found => .bind (Operation.callsOnly_orFail _ _) fun user => ?_
    dsimp only
    split
    · exact .bind (Operation.callsOnly_call _ .updateUserRevokes) fun _ => trivial
    · trivial
  unfold Service.updateUser
  dsimp only
  split
  · trivial
  split
  · trivial
  split
  · refine .bind (Operation.callsOnly_ofProgram fun _ => trivial) fun hash => .bind trivial
      fun passwordHash => ?_
    exact applied ⟨change.email, passwordHash, change.profile⟩
  · exact .bind trivial fun passwordHash => applied ⟨change.email, passwordHash, change.profile⟩

theorem callsOnly_createApp (name link : String) (secret : Option String) :
    Operation.CallsOnly (ServiceCall.Makes (.createApp name link secret))
      (service.createApp name link secret) := by
  unfold Service.createApp
  dsimp only
  split
  · trivial
  split
  · split
    · trivial
    · exact .bind trivial fun _ => Operation.callsOnly_call _ .createApp
  · refine .bind (Operation.callsOnly_ofProgram fun _ => trivial) fun secret => ?_
    exact Operation.callsOnly_call _ .createApp

theorem callsOnly_updateApp (appId : AppId) (name link : Option String) :
    Operation.CallsOnly (ServiceCall.Makes (.updateApp appId name link))
      (service.updateApp appId name link) := by
  unfold Service.updateApp
  dsimp only
  split
  · trivial
  split
  · exact service.callsOnly_getApp .updateAppReads
  · exact .bind (Operation.callsOnly_call _ .updateApp) fun _ => Operation.callsOnly_orFail _ _

end Service

/-- The store calls that are made for a call are no others than these, whatever
the stores answer. -/
theorem ServiceCall.callsOnly_makes (service : Service) (call : ServiceCall) :
    (service.program call).CallsOnly call.Makes := by
  show Operation.CallsOnly call.Makes (service.operation call)
  cases call with
  | register email password profile => exact service.callsOnly_register email password profile
  | login email password appId => exact service.callsOnly_login email password appId
  | refresh token => exact service.callsOnly_refresh token
  | logout token => exact .bind (Operation.callsOnly_call _ .logout) fun _ => trivial
  | validateToken token =>
    refine .bind (Operation.callsOnly_ofProgram
      (service.callsOnly_verifyAccess (fun _ => .validateToken) token)) fun outcome => ?_
    split <;> trivial
  | authenticate token =>
    refine .bind (Operation.callsOnly_ofProgram
      (service.callsOnly_verifyAccess (fun _ => .authenticate) token)) fun outcome => ?_
    split <;> trivial
  | isAdmin userId appId => exact Operation.callsOnly_call _ .isAdmin
  | userInfo userId => exact service.callsOnly_userInfo .userInfo
  | listUsers => exact Operation.callsOnly_call _ .listUsers
  | updateUser userId change => exact service.callsOnly_updateUser userId change
  | deleteUser userId =>
    refine .bind (Operation.callsOnly_call _ .deleteUserRevokes)
      fun _ => .bind (Operation.callsOnly_call _ .deleteUser) fun _ => ?_
    split <;> trivial
  | createApp name link secret => exact service.callsOnly_createApp name link secret
  | getApp appId => exact service.callsOnly_getApp .getApp
  | listApps => exact Operation.callsOnly_call _ .listApps
  | updateApp appId name link => exact service.callsOnly_updateApp appId name link
  | deleteApp appId =>
    refine .bind (Operation.callsOnly_call _ .deleteAppRevokes)
      fun _ => .bind (Operation.callsOnly_call _ .deleteApp) fun _ => ?_
    split <;> trivial
  | listAppUsers appId =>
    exact .bind (service.callsOnly_getApp .listAppUsersReads)
      fun _ => Operation.callsOnly_call _ .listAppUsers
  | setEnabled appId enabled =>
    refine .bind (Operation.callsOnly_call _ .setEnabled) fun _ => ?_
    split <;> trivial
  | grantAdmin userId appId =>
    refine .bind (Operation.callsOnly_call _ .grantAdminUser)
      fun _ => .bind (Operation.callsOnly_orFail _ _) fun _ => ?_
    refine .bind (service.callsOnly_getApp .grantAdminApp) fun _ => ?_
    exact Operation.callsOnly_call _ .grantAdmin
  | revokeAdmin userId appId => exact Operation.callsOnly_call _ .revokeAdmin
  | sweep => exact .bind (fun _ => trivial) fun _ => Operation.callsOnly_call _ .sweep

namespace ServiceCall

/-- A login or a refresh: a call that draws a refresh token to give it out. -/
def opensSession : ServiceCall -> Bool
  | .login _ _ _ => true
  | .refresh _ => true
  | _ => false

/-- Whether a call is a login. -/
def isLogin : ServiceCall -> Bool
  | .login _ _ _ => true
  | _ => false

/-- Whether a call only looks things up. -/
def isReading : ServiceCall -> Bool
  | .validateToken _ => true
  | .authenticate _ => true
  | .isAdmin _ _ => true
  | .userInfo _ => true
  | .listUsers => true
  | .getApp _ => true
  | .listApps => true
  | .listAppUsers _ => true
  | _ => false

theorem callsOnly_of_isReading (service : Service) {call : ServiceCall}
    (reads : call.isReading = true) :
    (service.program call).CallsOnly StoreCall.IsLookup := by
  refine .mono (fun request made => ?_) (callsOnly_makes service call)
  cases made <;> trivial

/-- A call that only looks things up leaves the stores as they are. -/
theorem stores_of_isReading {service : Service} {call : ServiceCall} {world later : World}
    {answer : Except Error call.Reply} (reads : call.isReading = true)
    (done : Operation.outcome (service.operation call) world = (answer, later)) :
    later.stores = world.stores := by
  have kept := Program.run_stores_of_callsOnly (callsOnly_of_isReading service reads) world
  exact (congrArg World.stores (congrArg Prod.snd done)).symm.trans kept

/-- Whether a call is about users, apps and grants alone. -/
def leavesTokens : ServiceCall -> Bool
  | .register _ _ _ => true
  | .createApp _ _ _ => true
  | .updateApp _ _ _ => true
  | .setEnabled _ _ => true
  | .grantAdmin _ _ => true
  | .revokeAdmin _ _ => true
  | call => call.isReading

theorem callsOnly_of_leavesTokens (service : Service) {call : ServiceCall}
    (leaves : call.leavesTokens = true) :
    (service.program call).CallsOnly StoreCall.IsCredential := by
  refine .mono (fun request made => ?_) (callsOnly_makes service call)
  cases made <;> trivial

/-- A call about users, apps and grants alone leaves the refresh tokens as they are. -/
theorem tokens_of_leavesTokens {service : Service} {call : ServiceCall} {world later : World}
    {answer : Except Error call.Reply} (leaves : call.leavesTokens = true)
    (done : Operation.outcome (service.operation call) world = (answer, later)) :
    later.stores.tokens = world.stores.tokens := by
  have kept := Program.run_tokens_of_callsOnly (callsOnly_of_leavesTokens service leaves) world
  exact (congrArg (fun after => after.2.stores.tokens) done).symm.trans kept

end ServiceCall

end SingleSignOn

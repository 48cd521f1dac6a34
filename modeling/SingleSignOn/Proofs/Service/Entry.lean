import SingleSignOn.Proofs.RefreshToken.Stage

namespace SingleSignOn

/-!
# The stages of a login and of a change of a user

A login looks its user up, checks the password against the hash that it has
found, and stores a refresh token some store calls later.  A change of a user
writes first and then removes the refresh tokens of the user, if it has
brought a new password.
-/

/-- How far a login or a change of a user has got. -/
inductive Entry where
  /-- Nothing is found or written yet. -/
  | begun
  /-- A login has found its user. -/
  | known (user : User)
  /-- It has checked the password and drawn its token. -/
  | minted (user : User) (record : NewRefreshToken)
  /-- It has removed the earlier tokens. -/
  | opening (user : User) (record : NewRefreshToken)
  /-- It has stored its token. -/
  | opened (user : User) (record : NewRefreshToken)
  /-- A change is written. -/
  | written (user : User)
  /-- A change is written, and the tokens of the user are removed. -/
  | changed (user : User)
  /-- Nothing is left to do but to fail. -/
  | failed

namespace Entry

/-- The stage after a reply. -/
def replied : Entry -> (request : StoreCall) -> Option (Except Error request.Reply) -> Entry
  | .begun, .credentials (.findUserByEmail _), some (.ok (some user)) => .known user
  | .begun, .credentials (.updateUser _ _), some (.ok (some user)) => .written user
  | .begun, .credentials (.updateUser _ _), _ => .failed
  | .minted user record, .tokens (.deleteByOwner _ _), some (.ok _) => .opening user record
  | .minted _ _, _, _ => .failed
  | .opening user record, .tokens (.create _), some (.ok _) => .opened user record
  | .opening _ _, _, _ => .failed
  | .written user, .tokens (.deleteByUser _), some (.ok _) => .changed user
  | .written _, _, _ => .failed
  | stage, _, _ => stage

/-- The user that a login has found. -/
def user? : Entry -> Option User
  | .known user => some user
  | .minted user _ => some user
  | .opening user _ => some user
  | .opened user _ => some user
  | _ => none

/-- The refresh token of a login, once its password is checked. -/
def record? : Entry -> Option NewRefreshToken
  | .minted _ record => some record
  | .opening _ record => some record
  | .opened _ record => some record
  | _ => none

/-- A call may fail at a stage: its token is not stored. -/
def MayFail : Entry -> Prop
  | .opened _ _ => False
  | _ => True

end Entry

namespace ServiceCall

/-- The store calls of a login and of a change at a stage. -/
def enters : ServiceCall -> Entry -> StoreCall -> Prop
  | .login email _ _, .begun, request => request = .credentials (.findUserByEmail email)
  | .login _ _ _, .known _, request => request.IsLookup
  | .login _ _ _, .minted _ record, request => request = .tokens (.deleteByOwner record.userId record.appId)
  | .login _ _ _, .opening _ record, request => request = .tokens (.create record)
  | .login _ _ _, _, _ => False
  | .updateUser userId _, .begun, request =>
    request.IsLookup ∨ ∃ update, request = .credentials (.updateUser userId update)
  | .updateUser userId _, .written _, request => request = .tokens (.deleteByUser userId)
  | .updateUser _ _, _, _ => False
  | _, _, _ => True

/-- What a login draws is a token for the user whose password it has checked. -/
def entered (service : Service) : ServiceCall -> Entry -> Bytes -> Entry -> Prop
  | .login _ password _, .known user, bytes, after =>
    Password.verify service.primitives password user.passwordHash = true ∧
      ∃ appId expiresAt, after = .minted user
        ⟨service.tokenDigest (Service.textOf bytes), user.id, appId, expiresAt⟩
  | _, stage, _, after => after = stage

/-- The moves of a call between stages. -/
def entry (service : Service) (call : ServiceCall) : Discipline Entry where
  allows := call.enters
  looks _ := True
  replied := Entry.replied
  drew := call.entered service

/-- The stage in which a call ends with an answer. -/
def settles (service : Service) : (call : ServiceCall) -> Entry -> Except Error call.Reply -> Prop
  | .login _ _ _, stage, .ok session =>
    ∃ user record, stage = .opened user record ∧ record.digest = service.tokenDigest session.refreshToken
  | .login _ _ _, stage, .error _ => stage.MayFail
  | .updateUser _ change, stage, .ok user => change.password.isSome = true -> stage = .changed user
  | _, _, _ => True

variable (service : Service) (call : ServiceCall)

theorem entry_login (email password : String) (appId : AppId) :
    Operation.Follows (entry service (.login email password appId)) (service.login email password appId)
      (fun stage session => ∃ user record, stage = .opened user record ∧
        record.digest = service.tokenDigest session.refreshToken)
      (fun stage _ => stage.MayFail) .begun := by
  unfold Service.login
  rw [Operation.follows_bind]
  refine (Operation.follows_call _ _ _ _ (.credentials (.findUserByEmail email)) _).mpr
    ⟨rfl, fun found => ?_, fun _ => trivial, trivial⟩
  rcases found with _ | user
  · trivial
  dsimp only
  split
  · trivial
  next checked =>
  have verified : Password.verify service.primitives password user.passwordHash = true := by
    simpa using checked
  unfold Service.activeApp
  rw [Operation.follows_bind, Operation.follows_bind]
  refine (Operation.follows_call _ _ _ _ (.credentials (.findAppById appId)) _).mpr
    ⟨trivial, fun found => ?_, fun _ => trivial, trivial⟩
  rw [Operation.follows_pure]
  cases found.filter fun app => app.enabled with
  | none => trivial
  | some app =>
    dsimp only
    rw [Operation.follows_bind]
    refine (Operation.follows_call _ _ _ _ (.credentials (.isAdmin user.id app.id)) _).mpr
      ⟨trivial, fun isAdmin => ?_, fun _ => trivial, trivial⟩
    rw [Operation.follows_bind]
    refine Service.follows_issueSession _ service user app isAdmin _ _ _ trivial (fun _ => trivial)
      fun bytes accessToken expiresAt deadline => ?_
    refine ⟨_, ⟨verified, app.id, deadline, rfl⟩, ?_⟩
    rw [Operation.follows_bind]
    refine (Operation.follows_call _ _ _ _ (.tokens (.deleteByOwner user.id app.id)) _).mpr
      ⟨rfl, fun _ => ?_, fun _ => trivial, trivial⟩
    rw [Operation.follows_bind]
    refine (Operation.follows_call _ _ _ _ (.tokens (.create _)) _).mpr
      ⟨rfl, fun _ => ?_, fun _ => trivial, trivial⟩
    exact ⟨_, _, rfl, rfl⟩

theorem entry_updateUser (userId : UserId) (change : ProfileChange) :
    Operation.Follows (entry service (.updateUser userId change)) (service.updateUser userId change)
      (fun stage user => change.password.isSome = true -> stage = .changed user) (fun _ _ => True) .begun := by
  have applied (update : UserUpdate) (same : update.passwordHash.isSome = change.password.isSome) :
      Operation.Follows (entry service (.updateUser userId change))
        (if update.isEmpty then service.userInfo userId
        else do
          let found ← service.credentials (.updateUser userId update)
          let user ← Operation.orFail .userNotFound found
          if update.passwordHash.isSome then
            let _ ← service.tokens (.deleteByUser userId)
          return user)
        (fun stage user => change.password.isSome = true -> stage = .changed user) (fun _ _ => True)
        .begun := by
    split
    · next empty =>
      have unchanged : ¬change.password.isSome = true := by
        simp only [UserUpdate.isEmpty, Bool.and_eq_true, Option.isNone_iff_eq_none] at empty
        rw [← same, empty.1.2]
        exact nofun
      unfold Service.userInfo
      rw [Operation.follows_bind]
      refine (Operation.follows_call _ _ _ _ (.credentials (.findUserById userId)) _).mpr
        ⟨.inl trivial, fun found => ?_, fun _ => trivial, trivial⟩
      exact (Operation.follows_orFail _ _ _ _ _ _).mpr
        ⟨fun user _ some => absurd some unchanged, fun _ => trivial⟩
    · rw [Operation.follows_bind]
      refine (Operation.follows_call _ _ _ _ (.credentials (.updateUser userId update)) _).mpr
        ⟨.inr ⟨update, rfl⟩, fun found => ?_, fun _ => trivial, trivial⟩
      rw [Operation.follows_bind]
      refine (Operation.follows_orFail _ _ _ _ _ _).mpr ⟨?_, fun _ => trivial⟩
      rintro user rfl
      dsimp only
      split
      · rw [Operation.follows_bind]
        exact (Operation.follows_call _ _ _ _ (.tokens (.deleteByUser userId)) _).mpr
          ⟨rfl, fun _ _ => rfl, fun _ => trivial, trivial⟩
      · next unhashed => exact fun some => absurd (same.trans some) unhashed
  unfold Service.updateUser
  dsimp only
  split
  · trivial
  split
  · trivial
  split
  · next password given =>
    rw [Operation.follows_bind]
    refine fun bytes => ⟨.begun, rfl, ?_⟩
    exact applied ⟨change.email, some _, change.profile⟩ (by rw [given]; rfl)
  · next absent =>
    rw [Operation.follows_bind]
    exact applied ⟨change.email, none, change.profile⟩ (by rw [absent])

/-- Every call of the service keeps to these stages, whatever its store calls answer. -/
theorem follows_entries : (service.program call).Follows (entry service call) (settles service call) .begun := by
  cases call with
  | login email password appId =>
    exact (Operation.follows_run _ _ _ _).mpr (entry_login service email password appId)
  | updateUser userId change =>
    exact (Operation.follows_run _ _ _ _).mpr (entry_updateUser service userId change)
  | _ =>
    exact Program.follows_of_closed (fun _ => True) (fun _ _ _ => trivial) (fun _ _ => trivial) (fun _ _ _ _ => trivial)
      (fun _ _ _ => rfl) (fun _ _ _ => trivial) _ trivial

end ServiceCall

/-- The stages of all calls of a service, as far as logins and changes of users are concerned. -/
def Service.entries (service : Service) : Tracking service Entry where
  discipline := ServiceCall.entry service
  fits := ServiceCall.settles service
  start := .begun
  follows := ServiceCall.follows_entries service

/-! ## What the stages tell -/

namespace Entry

variable {stage : Entry} {request : StoreCall} {reply : Option (Except Error request.Reply)}

/-- A login draws its token before it stores it, and keeps to its user from then on. -/
theorem record?_replied {record : NewRefreshToken} (drawn : (stage.replied request reply).record? = some record) :
    stage.record? = some record ∧ (stage.replied request reply).user? = stage.user? := by
  unfold replied at drawn ⊢
  split at drawn <;> first | exact ⟨drawn, rfl⟩ | cases drawn

/-- A login finds its user by one look-up. -/
theorem user?_replied {world : World} {ending : Ending} (told : (world.endCall request ending).1 = reply)
    {user : User} (known : (stage.replied request reply).user? = some user) :
    stage.user? = some user ∨ stage = .begun ∧ ∃ email, request = .credentials (.findUserByEmail email) ∧
      world.stores.credentials.findUserByEmail email = some user := by
  unfold replied at known
  split at known
  case h_1 email found =>
    cases known
    exact .inr ⟨rfl, email, rfl, Except.ok.inj (World.credentials_of_reply told).1⟩
  all_goals first | exact .inl known | cases known

/-- Whoever has got beyond the beginning does not return to it. -/
theorem replied_ne_begun (stage : Entry) (request : StoreCall) (reply : Option (Except Error request.Reply))
    (going : stage ≠ .begun) : stage.replied request reply ≠ .begun := by
  unfold replied
  split <;> first | exact going | exact nofun

theorem replied_updateUser_ne_begun {userId : UserId} {update : UserUpdate}
    (reply : Option (Except Error (StoreCall.credentials (.updateUser userId update)).Reply)) :
    Entry.replied .begun (.credentials (.updateUser userId update)) reply ≠ .begun := by
  rcases reply with _ | _ | _ | _ <;> exact nofun

/-- The user that a change has written. -/
def written? : Entry -> Option User
  | .written user => some user
  | .changed user => some user
  | _ => none

/-- A change writes by one store call. -/
theorem written?_replied {world : World} {ending : Ending} (told : (world.endCall request ending).1 = reply)
    {user : User} (wrote : (stage.replied request reply).written? = some user) :
    stage.written? = some user ∨ stage = .begun ∧ ∃ userId update,
      request = .credentials (.updateUser userId update) ∧
      (world.stores.credentials.updateUser userId update).1 = .ok (some user) ∧
      (world.endCall request ending).2.stores.credentials =
        (world.stores.credentials.updateUser userId update).2 := by
  unfold replied at wrote
  split at wrote
  case h_2 userId update found =>
    cases wrote
    exact .inr ⟨rfl, userId, update, rfl, World.credentials_of_reply told⟩
  all_goals first | exact .inl wrote | cases wrote

theorem written_of_replied {user : User} (wrote : stage.replied request reply = .written user) :
    stage = .written user ∨
      stage = .begun ∧ ∃ userId update, request = .credentials (.updateUser userId update) := by
  unfold replied at wrote
  split at wrote
  case h_2 userId update found => exact .inr ⟨rfl, userId, update, rfl⟩
  all_goals first | exact .inl wrote | cases wrote

theorem changed_of_replied {user : User} (removed : stage.replied request reply = .changed user) :
    stage = .changed user ∨ stage = .written user ∧ ∃ userId, request = .tokens (.deleteByUser userId) := by
  unfold replied at removed
  split at removed
  case h_8 userId _ =>
    cases removed
    exact .inr ⟨rfl, userId, rfl⟩
  all_goals first | exact .inl removed | cases removed

/-- A login that has drawn its token has found a user by whose hash its password is right. -/
def Checked (service : Service) (call : ServiceCall) (stage : Entry) : Prop :=
  forall record, stage.record? = some record -> ∃ email password appId user,
    call = .login email password appId ∧ stage.user? = some user ∧ record.userId = user.id ∧
      Password.verify service.primitives password user.passwordHash = true

theorem Checked.replied {service : Service} {call : ServiceCall} (checked : stage.Checked service call) :
    (stage.replied request reply).Checked service call := by
  intro record drawn
  rcases record?_replied drawn with ⟨before, same⟩
  rw [same]
  exact checked record before

theorem Checked.entered {service : Service} {call : ServiceCall} {bytes : Bytes} {after : Entry}
    (drew : call.entered service stage bytes after) (checked : stage.Checked service call) :
    after.Checked service call := by
  unfold ServiceCall.entered at drew
  split at drew
  · next email password appId user =>
    rcases drew with ⟨verified, app, expiresAt, rfl⟩
    intro record drawn
    cases drawn
    exact ⟨email, password, appId, user, rfl, rfl, rfl, verified⟩
  · rw [drew]
    exact checked

end Entry

end SingleSignOn

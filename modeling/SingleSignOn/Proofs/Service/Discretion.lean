import SingleSignOn.Proofs.Program.Parallel
import SingleSignOn.Proofs.Service.Outcome
import SingleSignOn.Service.Call

namespace SingleSignOn

/-!
# Operations that keep secrets

Login, refresh and the checks of access tokens are decided by secrets.  Every
other operation makes the same store calls whatever the secrets are, and its
reply is the same but for secrets.
-/

namespace ServiceCall

/-- The reply to a call without password hashes and secrets. -/
def redact : (call : ServiceCall) -> call.Reply -> call.Reply
  | .userInfo _, user => User.redacted user
  | .listUsers, users => List.map User.redacted users
  | .updateUser _ _, user => User.redacted user
  | .createApp _ _ _, app => App.redacted app
  | .getApp _, app => App.redacted app
  | .listApps, apps => List.map App.redacted apps
  | .updateApp _ _ _, app => App.redacted app
  | .listAppUsers _, members => List.map AppUser.redacted members
  | .register _ _ _, reply => reply
  | .login _ _ _, reply => reply
  | .refresh _, reply => reply
  | .logout _, reply => reply
  | .validateToken _, reply => reply
  | .authenticate _, reply => reply
  | .isAdmin _ _, reply => reply
  | .deleteUser _, reply => reply
  | .deleteApp _, reply => reply
  | .setEnabled _ _, reply => reply
  | .grantAdmin _ _, reply => reply
  | .revokeAdmin _ _, reply => reply
  | .sweep, reply => reply

/-- Whether a call is decided by a password hash or a secret. -/
def usesSecrets : ServiceCall -> Bool
  | .login _ _ _ => true
  | .refresh _ => true
  | .validateToken _ => true
  | .authenticate _ => true
  | _ => false

end ServiceCall

namespace Service

open Operation

variable (service : Service)

/-- An operation that is parallel to itself, with a result that is told the same. -/
abbrev Tells {α γ : Type} (tell : α -> γ) (operation : Operation α) : Prop :=
  Operation.Tells tell operation operation

theorem tells_credentials (request : CredentialCall) : Tells request.redact (service.credentials request) :=
  tells_call service.auth.storeTimeout (.credentials request)

theorem tells_tokens (request : TokenCall) : Tells id (service.tokens request) :=
  tells_call service.auth.storeTimeout (.tokens request)

theorem tells_hashPassword (password : String) : Tells id (ofProgram (service.hashPassword password)) :=
  tells_ofProgram (.draw _ fun _ => .done rfl)

theorem tells_userInfo (userId : UserId) : Tells User.redacted (service.userInfo userId) :=
  (service.tells_credentials (.findUserById userId)).bind fun _ _ same => tells_orFail _ same

theorem tells_getApp (appId : AppId) : Tells App.redacted (service.getApp appId) :=
  (service.tells_credentials (.findAppById appId)).bind fun _ _ same => tells_orFail _ same

/-- An operation that fails unless something was found. -/
theorem tells_unless {operation : Operation Bool} (first : Tells id operation) (failure : Error) :
    Tells id (do
      let found ← operation
      if !found then throw failure) := by
  refine first.bind fun found other same => ?_
  cases same
  cases found with
  | true => exact tells_pure rfl
  | false => exact tells_throw id failure

theorem tells_register (email password : String) (profile : Profile) :
    Tells id (service.register email password profile) := by
  unfold Service.register
  dsimp only
  split
  · exact tells_throw _ _
  split
  · exact tells_throw _ _
  refine (service.tells_hashPassword password).bind fun hash _ same => ?_
  cases same
  refine (service.tells_credentials (.createUser ⟨email, hash, profile⟩)).bind fun user other same => ?_
  have whole : user.redacted = other.redacted := same
  have ids := congrArg User.id whole
  exact tells_pure ids

theorem tells_logout (token : String) : Tells id (service.logout token) := by
  refine (service.tells_tokens _).bind fun deleted _ same => ?_
  cases same
  exact tells_pure rfl

theorem tells_applyUpdate (userId : UserId) (update : UserUpdate) :
    Tells User.redacted (service.applyUpdate userId update) := by
  unfold Service.applyUpdate
  split
  · exact service.tells_userInfo userId
  refine (service.tells_credentials (.updateUser userId update)).bind fun _ _ same => ?_
  refine (tells_orFail _ same).bind fun user other same => ?_
  split
  · exact (service.tells_tokens _).bind fun _ _ _ => tells_pure same
  · exact tells_pure same

theorem tells_updateUser (userId : UserId) (change : ProfileChange) :
    Tells User.redacted (service.updateUser userId change) := by
  unfold Service.updateUser
  dsimp only
  split
  · exact tells_throw _ _
  split
  · exact tells_throw _ _
  cases change.password with
  | none => exact service.tells_applyUpdate userId _
  | some password =>
    refine (service.tells_hashPassword password).bind fun hash _ same => ?_
    cases same
    exact service.tells_applyUpdate userId _

theorem tells_deleteUser (userId : UserId) : Tells id (service.deleteUser userId) :=
  (service.tells_tokens _).bind fun _ _ _ => tells_unless (service.tells_credentials (.deleteUser userId)) _

theorem tells_createApp (name link : String) (secret : Option String) :
    Tells App.redacted (service.createApp name link secret) := by
  unfold Service.createApp
  dsimp only
  split
  · exact tells_throw _ _
  split
  · split
    · exact tells_throw _ _
    · exact service.tells_credentials (.createApp _)
  · have random : Tells id (ofProgram randomText) := tells_ofProgram (.draw _ fun _ => .done rfl)
    refine random.bind fun secret _ same => ?_
    cases same
    exact service.tells_credentials (.createApp _)

theorem tells_updateApp (appId : AppId) (name link : Option String) :
    Tells App.redacted (service.updateApp appId name link) := by
  unfold Service.updateApp
  dsimp only
  split
  · exact tells_throw _ _
  split
  · exact service.tells_getApp appId
  · exact (service.tells_credentials (.updateApp appId ⟨name, link⟩)).bind fun _ _ same => tells_orFail _ same

theorem tells_deleteApp (appId : AppId) : Tells id (service.deleteApp appId) :=
  (service.tells_tokens _).bind fun _ _ _ => tells_unless (service.tells_credentials (.deleteApp appId)) _

theorem tells_grantAdmin (userId : UserId) (appId : AppId) : Tells id (service.grantAdmin userId appId) := by
  refine (service.tells_credentials (.findUserById userId)).bind fun _ _ same => ?_
  refine (tells_orFail _ same).bind fun _ _ _ => ?_
  exact (service.tells_getApp appId).bind fun _ _ _ => service.tells_credentials (.setAdmin userId appId true)

theorem tells_sweep : Tells id service.sweep := by
  have reads : Tells id (ofProgram Program.now) := tells_ofProgram (.clock fun _ => .done rfl)
  refine reads.bind fun now _ same => ?_
  cases same
  exact service.tells_tokens (.deleteExpired now)

/-- Every call that does not use secrets keeps them. -/
theorem tells_operation {call : ServiceCall} (keeps : call.usesSecrets = false) :
    Tells call.redact (service.operation call) := by
  cases call with
  | register email password profile => exact service.tells_register email password profile
  | login email password appId => cases keeps
  | refresh token => cases keeps
  | logout token => exact service.tells_logout token
  | validateToken token => cases keeps
  | authenticate token => cases keeps
  | isAdmin userId appId => exact service.tells_credentials (.isAdmin userId appId)
  | userInfo userId => exact service.tells_userInfo userId
  | listUsers => exact service.tells_credentials .listUsers
  | updateUser userId change => exact service.tells_updateUser userId change
  | deleteUser userId => exact service.tells_deleteUser userId
  | createApp name link secret => exact service.tells_createApp name link secret
  | getApp appId => exact service.tells_getApp appId
  | listApps => exact service.tells_credentials .listApps
  | updateApp appId name link => exact service.tells_updateApp appId name link
  | deleteApp appId => exact service.tells_deleteApp appId
  | listAppUsers appId =>
    exact (service.tells_getApp appId).bind fun _ _ _ => service.tells_credentials (.listUsersForApp appId)
  | setEnabled appId enabled => exact tells_unless (service.tells_credentials (.setAppEnabled appId enabled)) _
  | grantAdmin userId appId => exact service.tells_grantAdmin userId appId
  | revokeAdmin userId appId => exact service.tells_credentials (.removeAdmin userId appId)
  | sweep => exact service.tells_sweep

end Service

end SingleSignOn

import SingleSignOn.Proofs.AccessToken.Lifetime
import SingleSignOn.Proofs.Program.Assurance
import SingleSignOn.Proofs.Service.Kinds
import SingleSignOn.Proofs.Store.References

namespace SingleSignOn

/-!
# References survive failures

The two stores have no foreign keys, so it is up to each operation to delete
the refresh tokens of a user or an app before the user or the app, and to
look up what it names before it names it.  That is enough however store calls
fail: an operation that is cut short has only made calls that were permitted
when they were made.  Only five operations make calls for which it matters
what was done before.
-/

namespace Operation

variable {α : Type} {world : World}

/-- Whatever happens to its store calls, an operation keeps the stores coherent. -/
def KeepsCoherent (operation : Operation α) (world : World) : Prop :=
  operation.Assures (fun _ later => later.stores.IsCoherent) (fun later => later.stores.IsCoherent) world

end Operation

namespace Service

variable {service : Service} {world : World}

/-- A call that is permitted keeps the stores coherent, and is answered with
success only if it was carried out. -/
theorem assures_call_of_permits (coherent : world.stores.IsCoherent) (request : StoreCall)
    (permitted : world.stores.Permits request) :
    (service.call request).Assures
      (fun _ later => later.stores.IsCoherent ∧ later = (world.answer request).2)
      (fun later => later.stores.IsCoherent) world := by
  have answered : (world.answer request).2.stores.IsCoherent := coherent.answer world.now request permitted
  refine Operation.assures_call _ request coherent answered fun ending value replied => ?_
  cases ending with
  | refused error => cases replied
  | givenUp => cases replied
  | carriedOut => exact ⟨answered, rfl⟩
  | miscounted => exact ⟨answered, rfl⟩

theorem assures_attempt_of_permits (coherent : world.stores.IsCoherent) {request : StoreCall}
    (permitted : world.stores.Permits request) :
    (service.attempt request).Assures (fun _ later => later.stores.IsCoherent)
      (fun later => later.stores.IsCoherent) world := by
  refine Operation.assures_attempt _ request fun ending answer => ?_
  rcases world.endCall_cases request ending with same | same
  · rw [same]
    exact coherent
  · rw [same]
    exact coherent.answer world.now request permitted

section

variable {stores : Stores} (coherent : stores.IsCoherent) (here : world.stores = stores)

include coherent here

/-- A look-up tells of the stores and leaves them as they are. -/
theorem assures_lookup (request : CredentialCall) (looks : (StoreCall.credentials request).IsLookup) :
    (service.credentials request).Assures
      (fun value later => later.stores = stores ∧ (stores.credentials.answer world.now request).1 = .ok value)
      (fun later => later.stores.IsCoherent) world := by
  subst here
  have same (ending : Ending) : (world.endCall (.credentials request) ending).2.stores = world.stores := by
    rcases world.endCall_cases (.credentials request) ending with same | same
    · rw [same]
    · rw [same]
      exact world.stores.answer_of_isLookup world.now looks
  refine Operation.assures_call service.auth.storeTimeout (.credentials request) ?_ ?_ ?_
  · exact coherent
  · exact (same .carriedOut).symm ▸ coherent
  · exact fun ending value replied => ⟨same ending, (World.credentials_of_reply replied).1⟩

theorem assures_findUser (userId : UserId) :
    (service.credentials (.findUserById userId)).Assures
      (fun found later => later.stores = stores ∧
        forall user, found = some user -> user.id = userId ∧ stores.credentials.HasUser user.id)
      (fun later => later.stores.IsCoherent) world := by
  refine (assures_lookup coherent here (.findUserById userId) trivial).mono fun found later looked => ?_
  refine ⟨looked.1, fun user present => ?_⟩
  have stored : stores.credentials.users[userId]? = some user := (Except.ok.inj looked.2).trans present
  have shown := coherent.filed.users userId user stored
  exact ⟨shown, user, shown.symm ▸ stored, rfl⟩

theorem assures_findApp (appId : AppId) :
    (service.credentials (.findAppById appId)).Assures
      (fun found later => later.stores = stores ∧
        forall app, found = some app -> app.id = appId ∧ stores.credentials.HasApp app.id)
      (fun later => later.stores.IsCoherent) world := by
  refine (assures_lookup coherent here (.findAppById appId) trivial).mono fun found later looked => ?_
  refine ⟨looked.1, fun app present => ?_⟩
  have stored : stores.credentials.apps[appId]? = some app := (Except.ok.inj looked.2).trans present
  have shown := coherent.filed.apps appId app stored
  exact ⟨shown, app, shown.symm ▸ stored, rfl⟩

theorem assures_activeApp (appId : AppId) :
    (service.activeApp appId).Assures
      (fun found later => later.stores = stores ∧
        forall app, found = some app -> stores.credentials.HasApp app.id)
      (fun later => later.stores.IsCoherent) world := by
  refine (assures_findApp coherent here appId).bind fun found later looked => ⟨looked.1, fun app active => ?_⟩
  exact (looked.2 app (Option.filter_eq_some_iff.mp active).1).2

/-- A session is issued without a store call, with a record for its user and its app. -/
theorem assures_issueSession (user : User) (app : App) (isAdmin : Bool) :
    (service.issueSession user app isAdmin).Assures
      (fun issued later => later.stores = stores ∧ issued.2.userId = user.id ∧ issued.2.appId = app.id)
      (fun later => later.stores.IsCoherent) world := by
  subst here
  unfold Service.issueSession
  refine (Operation.assures_bind _ _).mpr ?_
  refine (Operation.assures_bind _ _).mpr ?_
  cases AccessToken.issue service.primitives ⟨user.id, user.email, app.id, isAdmin⟩ app.secret
      service.auth.accessTokenLifetime world.now with
  | error error => exact coherent
  | ok issued =>
    refine (Operation.assures_bind _ _).mpr (Operation.assures_orFail (fun _ => coherent) fun expiry _ => ?_)
    exact ⟨rfl, rfl, rfl⟩

/-! ## The operations that name or delete what may be named -/

theorem keepsCoherent_login (email password : String) (appId : AppId) :
    (service.login email password appId).KeepsCoherent world := by
  unfold Service.login
  refine (assures_lookup coherent here (.findUserByEmail email) trivial).bind fun found first looked => ?_
  rcases looked with ⟨here, held⟩
  have kept : first.stores.IsCoherent := here ▸ coherent
  rcases found with _ | user
  · exact kept
  dsimp only
  split
  · exact kept
  have hasUser : stores.credentials.HasUser user.id := by
    rcases Option.bind_eq_some_iff.mp (Except.ok.inj held) with ⟨id, _, stored⟩
    have shown := coherent.filed.users id user stored
    exact ⟨user, shown.symm ▸ stored, rfl⟩
  refine (assures_activeApp coherent here appId).bind fun active second looked => ?_
  rcases looked with ⟨here, present⟩
  have kept : second.stores.IsCoherent := here ▸ coherent
  rcases active with _ | app
  · exact kept
  refine (assures_lookup coherent here (.isAdmin user.id app.id) trivial).bind fun isAdmin third looked => ?_
  refine (assures_issueSession coherent looked.1 user app isAdmin).bind fun issued fourth minted => ?_
  rcases minted with ⟨here, forUser, forApp⟩
  have kept : fourth.stores.IsCoherent := here ▸ coherent
  refine (assures_call_of_permits kept (.tokens (.deleteByOwner user.id app.id)) trivial).bind
    fun _ fifth revoked => ?_
  have same : fifth.stores.credentials = stores.credentials := by
    rw [revoked.2, ← here]
    rfl
  refine (assures_call_of_permits revoked.1 (.tokens (.create issued.2)) ?_).bind fun _ _ stored => stored.1
  show fifth.stores.credentials.HasUser issued.2.userId ∧ fifth.stores.credentials.HasApp issued.2.appId
  rw [same, forUser, forApp]
  exact ⟨hasUser, present app rfl⟩

theorem keepsCoherent_refresh (token : String) : (service.refresh token).KeepsCoherent world := by
  have removes {world : World} (kept : world.stores.IsCoherent) (digest : String) :
      (service.attempt (.tokens (.deleteByToken digest))).KeepsCoherent world :=
    assures_attempt_of_permits kept trivial
  have kept : world.stores.IsCoherent := here ▸ coherent
  unfold Service.refresh
  refine (assures_call_of_permits kept (.tokens (.find (service.tokenDigest token))) trivial).bind
    fun found first looked => ?_
  have here : first.stores = stores := by
    rw [looked.2, ← here]
    rfl
  rcases found with _ | stored
  · exact looked.1
  refine (Operation.assures_bind _ _).mpr ((Operation.assures_now _).mpr ?_)
  split
  · exact (removes looked.1 _).bind fun _ _ kept => kept
  refine (assures_findUser coherent here stored.userId).bind fun found second looked => ?_
  rcases looked with ⟨here, hasUser⟩
  have kept : second.stores.IsCoherent := here ▸ coherent
  rcases found with _ | user
  · exact kept
  refine (assures_activeApp coherent here stored.appId).bind fun active third looked => ?_
  rcases looked with ⟨here, hasApp⟩
  have kept : third.stores.IsCoherent := here ▸ coherent
  rcases active with _ | app
  · exact kept
  refine (assures_lookup coherent here (.isAdmin user.id app.id) trivial).bind fun isAdmin fourth looked => ?_
  refine (assures_issueSession coherent looked.1 user app isAdmin).bind fun issued fifth minted => ?_
  rcases minted with ⟨here, forUser, forApp⟩
  have kept : fifth.stores.IsCoherent := here ▸ coherent
  have permitted : fifth.stores.Permits (.tokens (.create issued.2)) := by
    show fifth.stores.credentials.HasUser issued.2.userId ∧ fifth.stores.credentials.HasApp issued.2.appId
    rw [here, forUser, forApp]
    exact ⟨(hasUser user rfl).2, hasApp app rfl⟩
  refine (assures_call_of_permits kept (.tokens (.create issued.2)) permitted).bind fun _ sixth stored => ?_
  refine (removes stored.1 _).bind fun answer seventh kept => ?_
  match answer with
  | .error error => exact kept
  | .ok 0 => exact (removes kept _).bind fun _ _ kept => kept
  | .ok (_ + 1) => exact kept

theorem keepsCoherent_grantAdmin (userId : UserId) (appId : AppId) :
    (service.grantAdmin userId appId).KeepsCoherent world := by
  unfold Service.grantAdmin
  refine (assures_findUser coherent here userId).bind fun found first looked => ?_
  rcases looked with ⟨here, hasUser⟩
  have kept : first.stores.IsCoherent := here ▸ coherent
  refine (Operation.assures_bind _ _).mpr (Operation.assures_orFail (fun _ => kept) fun user present => ?_)
  refine (Operation.assures_bind _ _).mpr ?_
  refine (assures_findApp coherent here appId).bind fun found second looked => ?_
  rcases looked with ⟨here, hasApp⟩
  have kept : second.stores.IsCoherent := here ▸ coherent
  refine Operation.assures_orFail (fun _ => kept) fun app found => ?_
  have permitted : second.stores.Permits (.credentials (.setAdmin userId appId true)) := by
    show second.stores.credentials.HasUser userId ∧ second.stores.credentials.HasApp appId
    rw [here, ← (hasUser user present).1, ← (hasApp app found).1]
    exact ⟨(hasUser user present).2, (hasApp app found).2⟩
  exact (assures_call_of_permits kept _ permitted).mono fun _ _ granted => granted.1

end

theorem keepsCoherent_deleteUser (coherent : world.stores.IsCoherent) (userId : UserId) :
    (service.deleteUser userId).KeepsCoherent world := by
  unfold Service.deleteUser
  refine (assures_call_of_permits coherent (.tokens (.deleteByUser userId)) trivial).bind fun _ between revoked => ?_
  have gone : between.stores.Permits (.credentials (.deleteUser userId)) := by
    intro digest token stored
    rw [revoked.2] at stored
    have kept := (world.stores.tokens.getElem?_answer world.now (.deleteByUser userId) digest).symm.trans stored
    simpa using (Option.filter_eq_some_iff.mp kept).2
  refine (assures_call_of_permits revoked.1 (.credentials (.deleteUser userId)) gone).bind fun found later deleted => ?_
  cases found with
  | false => exact deleted.1
  | true => exact deleted.1

theorem keepsCoherent_deleteApp (coherent : world.stores.IsCoherent) (appId : AppId) :
    (service.deleteApp appId).KeepsCoherent world := by
  unfold Service.deleteApp
  refine (assures_call_of_permits coherent (.tokens (.deleteByApp appId)) trivial).bind fun _ between revoked => ?_
  have gone : between.stores.Permits (.credentials (.deleteApp appId)) := by
    intro digest token stored
    rw [revoked.2] at stored
    have kept := (world.stores.tokens.getElem?_answer world.now (.deleteByApp appId) digest).symm.trans stored
    simpa using (Option.filter_eq_some_iff.mp kept).2
  refine (assures_call_of_permits revoked.1 (.credentials (.deleteApp appId)) gone).bind fun found later deleted => ?_
  cases found with
  | false => exact deleted.1
  | true => exact deleted.1

/-! ## Every run -/

/-- Whatever happens to its store calls, a call to the service keeps the stores coherent. -/
theorem keepsCoherent_operation (coherent : world.stores.IsCoherent) (call : ServiceCall) :
    (service.operation call).KeepsCoherent world := by
  -- Apart from five calls, what is made is permitted in any state.
  have freely (free : forall request, call.Makes request -> forall stores : Stores, stores.Permits request) :
      (service.operation call).KeepsCoherent world := by
    refine Program.Assures.mono (Program.assures_of_callsOnly (call.callsOnly_makes service)
      (fun stores now request makes coherent => coherent.answer now request (free request makes stores))
      coherent) fun result later kept => ?_
    cases result with
    | ok value => exact kept
    | error error => exact kept
  cases call with
  | login email password appId => exact keepsCoherent_login coherent rfl email password appId
  | refresh token => exact keepsCoherent_refresh coherent rfl token
  | deleteUser userId => exact keepsCoherent_deleteUser coherent userId
  | deleteApp appId => exact keepsCoherent_deleteApp coherent appId
  | grantAdmin userId appId => exact keepsCoherent_grantAdmin coherent rfl userId appId
  | _ =>
    refine freely fun request makes stores => ?_
    cases makes <;> trivial

theorem isCoherent_respond (coherent : world.stores.IsCoherent) (request : Request) :
    (service.respond world request).2.stores.IsCoherent := by
  let start : World := { world with now := request.now }
  have begun : start.stores.IsCoherent := coherent
  have kept : (service.operation request.call).KeepsCoherent start :=
    keepsCoherent_operation begun request.call
  have ended := Program.Assures.runUnder request.mishaps ⟨start, []⟩ kept
  show ((service.program request.call).runUnder request.mishaps _).2.world.stores.IsCoherent
  unfold Service.program
  split at ended
  · exact ended
  · exact ended

theorem isCoherent_serve (coherent : world.stores.IsCoherent) (requests : List Request) :
    (service.serve world requests).2.stores.IsCoherent := by
  induction requests generalizing world with
  | nil => exact coherent
  | cons request later hypothesis => exact hypothesis (isCoherent_respond coherent request)

end Service

/-- After any requests to a deployment that began without records, each
refresh token and each grant names a stored user and a stored app.  Any store
call on the way may have failed, timed out, or been carried out with its
count reported as zero. -/
theorem references_survive_failures (service : Service) (world : World) (empty : world.stores = .empty)
    (requests : List Request) : (service.serve world requests).2.stores.IsReferential := by
  have coherent : world.stores.IsCoherent := empty ▸ Stores.isCoherent_empty
  exact (Service.isCoherent_serve coherent requests).referential

namespace Sample

/-- Deletions that are cut short before and after the refresh tokens are gone,
and a refresh that cannot remove the token it was given. -/
def cutShort : List Request :=
  joining ++ [
    request 1 (.login email password 1),
    ⟨.refresh firstToken, ⟨2⟩, fun number => if number = 5 then some (.refusal .internal) else none⟩,
    request 3 (.grantAdmin 1 1),
    ⟨.deleteUser 1, ⟨4⟩, fun number => if number = 1 then some .silence else none⟩,
    request 5 (.login email password 1),
    ⟨.deleteApp 1, ⟨6⟩, fun number => if number = 0 then some (.delay 2000) else none⟩]

end Sample

/-- After deletions that were cut short, a token and a grant are stored, and what they name too. -/
theorem references_survive_failures_of_cutShort :
    Sample.start.stores = .empty ∧
      ((Sample.service.serve Sample.start Sample.cutShort).1.map fun answered => answered.answer.toBool) =
        [true, true, true, true, true, false, true, false] ∧
      (Sample.service.serve Sample.start Sample.cutShort).2.stores.tokens.tokens.size = 1 ∧
      (Sample.service.serve Sample.start Sample.cutShort).2.stores.credentials.isAdmin 1 1 = true ∧
      (Sample.service.serve Sample.start Sample.cutShort).2.stores.IsReferential := by
  refine ⟨rfl, ?_, ?_, ?_, references_survive_failures Sample.service Sample.start rfl Sample.cutShort⟩
  · decide +kernel
  · decide +kernel
  · decide +kernel

end SingleSignOn

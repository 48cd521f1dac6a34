import SingleSignOn.Proofs.AccessToken.Validation
import SingleSignOn.Proofs.RefreshToken.Stage
import SingleSignOn.Proofs.Service.Standing

namespace SingleSignOn

/-!
# Deletions are final

A deletion takes the refresh tokens of a user or an app away first, and
calls that are in progress may store new ones after that.  What makes it
final is something else: ids are not given out again, so a deleted user or
app stays away, and a refresh looks both up again before it hands anything
out.
-/

/-! ## Users and apps that are gone -/

namespace CredentialStore

variable {store : CredentialStore}

/-- The id of a user was given out, and the user is not there any more. -/
structure LostUser (store : CredentialStore) (userId : UserId) : Prop where
  known : userId ≤ (store.userCount : Int)
  gone : store.users[userId]? = none

/-- The id of an app was given out, and the app is not there any more. -/
def LostApp (store : CredentialStore) (appId : AppId) : Prop :=
  store.Stands appId none

theorem LostApp.gone {appId : AppId} (lost : store.LostApp appId) : store.apps[appId]? = none :=
  Option.map_eq_none_iff.mp lost.current

/-- No store call brings a user back. -/
theorem LostUser.answer {userId : UserId} (lost : store.LostUser userId) (now : Instant)
    (call : CredentialCall) : (store.answer now call).2.LostUser userId := by
  cases call with
  | createUser user =>
    simp only [CredentialStore.answer, createUser]
    split
    · exact lost
    · have different : ((store.userCount : Int) + 1) ≠ userId :=
        Int.ne_of_gt (Int.lt_add_one_of_le lost.known)
      refine ⟨Int.le_trans lost.known (Int.ofNat_le.mpr (Nat.le_succ _)), ?_⟩
      rw [Table.getElem?_insert, if_neg different, lost.gone]
  | updateUser id update =>
    simp only [CredentialStore.answer, updateUser]
    cases stored : store.users[id]? with
    | none => exact lost
    | some current =>
      have different : id ≠ userId := by
        rintro rfl
        cases stored.symm.trans lost.gone
      have kept : (store.users.insert id (update.applyTo current))[userId]? = none := by
        rw [Table.getElem?_insert, if_neg different, lost.gone]
      dsimp only
      split
      · exact ⟨lost.known, kept⟩
      · split
        · exact lost
        · exact ⟨lost.known, kept⟩
  | deleteUser id =>
    simp only [CredentialStore.answer, deleteUser]
    split
    · exact lost
    · refine ⟨lost.known, ?_⟩
      rw [Table.getElem?_erase, lost.gone, ite_self]
  | createApp app =>
    simp only [CredentialStore.answer, createApp]
    split
    · exact lost
    · exact ⟨lost.known, lost.gone⟩
  | updateApp id update =>
    simp only [CredentialStore.answer, updateApp]
    repeat' split
    all_goals exact ⟨lost.known, lost.gone⟩
  | deleteApp id =>
    simp only [CredentialStore.answer, deleteApp]
    split
    · exact lost
    · exact ⟨lost.known, lost.gone⟩
  | setAppEnabled id enabled =>
    simp only [CredentialStore.answer, setAppEnabled]
    split
    · exact lost
    · exact ⟨lost.known, lost.gone⟩
  | setAdmin userId appId isAdmin => exact ⟨lost.known, lost.gone⟩
  | removeAdmin userId appId => exact ⟨lost.known, lost.gone⟩
  | _ => exact lost

/-- No store call brings an app back. -/
theorem LostApp.answer {appId : AppId} (lost : store.LostApp appId) (now : Instant)
    (call : CredentialCall) : (store.answer now call).2.LostApp appId := by
  cases call with
  | deleteApp id =>
    rcases store.standing?_deleteApp id appId with ⟨same, count⟩
    refine ⟨count ▸ lost.known, same.trans ?_⟩
    rw [lost.current, ite_self]
  | setAppEnabled id enabled =>
    rcases store.standing?_setAppEnabled id appId enabled with ⟨same, count⟩
    refine ⟨count ▸ lost.known, same.trans ?_⟩
    rw [lost.current, Option.map_none, ite_self]
  | _ => exact Stands.answer lost now trivial

namespace IsSound

variable (sound : store.IsSound)

include sound

/-- A user who was deleted is gone, under an id that was given out. -/
theorem lostUser_deleteUser {userId : UserId} (found : (store.deleteUser userId).1 = true) :
    (store.deleteUser userId).2.LostUser userId := by
  unfold CredentialStore.deleteUser at found ⊢
  cases stored : store.users[userId]? with
  | none =>
    rw [stored] at found
    cases found
  | some user =>
    refine ⟨(sound.userIds userId user stored).2, ?_⟩
    show (store.users.erase userId)[userId]? = none
    rw [Table.getElem?_erase, if_pos rfl]

/-- An app that was deleted is gone, under an id that was given out. -/
theorem lostApp_deleteApp {appId : AppId} (found : (store.deleteApp appId).1 = true) :
    (store.deleteApp appId).2.LostApp appId := by
  rcases store.standing?_deleteApp appId appId with ⟨gone, count⟩
  refine ⟨?_, gone.trans (if_pos rfl)⟩
  rw [count]
  unfold CredentialStore.deleteApp at found
  cases stored : store.apps[appId]? with
  | none =>
    rw [stored] at found
    cases found
  | some app => exact (sound.appIds appId app stored).2

end IsSound

end CredentialStore

/-! ## What an answer depends on -/

/-- What a call has found of the records that its answer depends on. -/
inductive Inquiry where
  /-- Nothing so far. -/
  | begun
  /-- A refresh has found the record of its token. -/
  | presented (record : RefreshToken)
  /-- It has found the user of the record, too. -/
  | identified (record : RefreshToken)
  /-- It has found the app of the record, too. -/
  | resolved (record : RefreshToken)
  /-- A check of an access token has found the app. -/
  | vouched (appId : AppId)
  /-- What was to be deleted has been there, and is gone. -/
  | deleted

/-- The stage after a reply. -/
def Inquiry.replied : Inquiry -> (request : StoreCall) -> Option (Except Error request.Reply) -> Inquiry
  | .begun, .tokens (.find _), some (.ok (some record)) => .presented record
  | .begun, .credentials (.findAppById appId), some (.ok (some _)) => .vouched appId
  | .begun, .credentials (.deleteUser _), some (.ok true) => .deleted
  | .begun, .credentials (.deleteApp _), some (.ok true) => .deleted
  | .presented record, .credentials (.findUserById _), some (.ok (some _)) => .identified record
  | .identified record, .credentials (.findAppById _), some (.ok (some _)) => .resolved record
  | stage, _, _ => stage

theorem Inquiry.replied_resolved (record : RefreshToken) (request : StoreCall)
    (reply : Option (Except Error request.Reply)) :
    (Inquiry.resolved record).replied request reply = .resolved record := by
  unfold replied
  split <;> first | rfl | contradiction

namespace ServiceCall

/-- What a call asks for at a stage, as far as its answer depends on it. -/
def inquires (service : Service) : ServiceCall -> Inquiry -> StoreCall -> Prop
  | .refresh token, .begun, .tokens (.find digest) => digest = service.tokenDigest token
  | .refresh _, .presented record, .credentials (.findUserById userId) => userId = record.userId
  | .refresh _, .identified record, .credentials (.findAppById appId) => appId = record.appId
  | .validateToken token, _, .credentials (.findAppById appId) => AccessToken.claimedApp token = .ok appId
  | .deleteUser userId, _, .credentials request => request = .deleteUser userId
  | .deleteApp appId, _, .credentials request => request = .deleteApp appId
  | _, _, _ => True

/-- The moves of a call between stages. -/
def inquiry (service : Service) (call : ServiceCall) : Discipline Inquiry where
  allows := call.inquires service
  looks _ := True
  replied := Inquiry.replied
  drew stage _ after := after = stage

/-- What a call has found when it is answered. -/
def concludes : (call : ServiceCall) -> Inquiry -> Except Error call.Reply -> Prop
  | .refresh _, stage, .ok _ => ∃ record, stage = .resolved record
  | .validateToken token, stage, .ok (some _) =>
    ∃ appId, stage = .vouched appId ∧ AccessToken.claimedApp token = .ok appId
  | .deleteUser _, stage, .ok _ => stage = .deleted
  | .deleteApp _, stage, .ok _ => stage = .deleted
  | _, _, _ => True

variable (service : Service) (call : ServiceCall)

section Lookups

variable {stage : Inquiry} {failure : Inquiry -> Error -> Prop} (fails : forall after error, failure after error)

include fails

/-- A store call after which it does not matter how the call fails. -/
theorem follows_inquiry (request : StoreCall) {success : Inquiry -> request.Reply -> Prop}
    (asked : call.inquires service stage request)
    (answered : forall value, success (stage.replied request (some (.ok value))) value) :
    Operation.Follows (inquiry service call) (service.call request) success failure stage :=
  (Operation.follows_call _ _ _ _ request success).mpr
    ⟨asked, answered, fun _ => fails _ _, fails _ _⟩

theorem inquiry_activeApp (appId : AppId) {success : Inquiry -> Option App -> Prop}
    (asked : call.inquires service stage (.credentials (.findAppById appId)))
    (absent : forall found, success (stage.replied (.credentials (.findAppById appId)) (some (.ok found))) none)
    (active : forall app : App,
      success (stage.replied (.credentials (.findAppById appId)) (some (.ok (some app)))) (some app)) :
    Operation.Follows (inquiry service call) (service.activeApp appId) success failure stage := by
  unfold Service.activeApp
  rw [Operation.follows_bind]
  refine follows_inquiry service call fails (.credentials (.findAppById appId)) asked fun found => ?_
  cases found with
  | none => exact absent none
  | some app =>
    by_cases enabled : app.enabled = true
    · simpa only [Option.filter, if_pos enabled, Operation.follows_pure] using active app
    · simpa only [Option.filter, if_neg enabled, Operation.follows_pure] using absent (some app)

end Lookups

theorem inquiry_refresh (token : String) :
    Operation.Follows (inquiry service (.refresh token)) (service.refresh token)
      (fun stage _ => ∃ record, stage = .resolved record) (fun _ _ => True) .begun := by
  unfold Service.refresh
  rw [Operation.follows_bind]
  refine follows_inquiry _ _ (fun _ _ => trivial) (.tokens (.find (service.tokenDigest token))) rfl fun found => ?_
  rcases found with _ | record
  · trivial
  dsimp only
  rw [Operation.follows_bind, Operation.follows_now]
  refine ⟨trivial, fun now => ?_⟩
  split
  · rw [Operation.follows_bind]
    exact (Operation.follows_attempt _ _ _ _ _ _).mpr ⟨trivial, fun _ => trivial, trivial⟩
  rw [Operation.follows_bind]
  refine follows_inquiry _ _ (fun _ _ => trivial) (.credentials (.findUserById record.userId)) rfl fun found => ?_
  rcases found with _ | user
  · trivial
  dsimp only
  rw [Operation.follows_bind]
  refine inquiry_activeApp _ _ (fun _ _ => trivial) record.appId rfl (fun _ => trivial) fun app => ?_
  -- Whatever the refresh does now, it has found all that it depends on.
  refine Program.follows_of_closed (· = .resolved record) ?_ (fun _ _ => trivial) ?_
    (fun _ _ _ => rfl) ?_ _ rfl
  · rintro stage request rfl
    rcases request with request | request
    · cases request <;> trivial
    · cases request <;> trivial
  · rintro stage request reply rfl
    exact Inquiry.replied_resolved record request reply
  · rintro stage (error | session) rfl
    · trivial
    · exact ⟨record, rfl⟩

/-- An access token is found good only after its app is. -/
theorem inquiry_verifyToken (token : String) :
    Program.Follows (inquiry service (.validateToken token))
      (service.verifyToken token fun appId => do
        let app ← (service.activeApp appId).run
        return app.map fun found => found.map App.secret)
      (fun stage outcome => forall claims, outcome = .ok claims ->
        ∃ appId, stage = .vouched appId ∧ AccessToken.claimedApp token = .ok appId) .begun := by
  unfold Service.verifyToken
  cases claimed : AccessToken.claimedApp token with
  | error rejection => exact nofun
  | ok appId =>
    refine (Program.follows_bind _ _ _ _ _).mpr ((Program.follows_bind _ _ _ _ _).mpr ?_)
    refine (Operation.follows_run _ _ _ _).mpr (inquiry_activeApp service _ ?_ appId claimed ?_ ?_)
    · exact fun _ _ => nofun
    · exact fun _ => nofun
    · exact fun app => ⟨trivial, fun now claims _ => ⟨appId, rfl, rfl⟩⟩

theorem inquiry_validateToken (token : String) :
    (service.program (.validateToken token)).Follows (inquiry service (.validateToken token))
      (concludes (.validateToken token)) .begun := by
  rw [Service.program_validateToken, Program.follows_bind]
  refine (Program.follows_bind _ _ _ _ _).mpr ?_
  refine (inquiry_verifyToken service token).mono fun stage outcome good => ⟨trivial, fun now => ?_⟩
  match outcome with
  | .error rejection => cases rejection <;> trivial
  | .ok claims =>
    have found := good claims rfl
    show concludes (.validateToken token) stage (Service.report (if _ then _ else _))
    split
    · trivial
    · exact found

theorem inquiry_deleteUser (userId : UserId) :
    Operation.Follows (inquiry service (.deleteUser userId)) (service.deleteUser userId)
      (fun stage _ => stage = .deleted) (fun _ _ => True) .begun := by
  unfold Service.deleteUser
  rw [Operation.follows_bind]
  refine follows_inquiry _ _ (fun _ _ => trivial) (.tokens (.deleteByUser userId)) trivial fun count => ?_
  rw [Operation.follows_bind]
  refine follows_inquiry _ _ (fun _ _ => trivial) (.credentials (.deleteUser userId)) rfl fun found => ?_
  cases found with
  | false => trivial
  | true => rfl

theorem inquiry_deleteApp (appId : AppId) :
    Operation.Follows (inquiry service (.deleteApp appId)) (service.deleteApp appId)
      (fun stage _ => stage = .deleted) (fun _ _ => True) .begun := by
  unfold Service.deleteApp
  rw [Operation.follows_bind]
  refine follows_inquiry _ _ (fun _ _ => trivial) (.tokens (.deleteByApp appId)) trivial fun count => ?_
  rw [Operation.follows_bind]
  refine follows_inquiry _ _ (fun _ _ => trivial) (.credentials (.deleteApp appId)) rfl fun found => ?_
  cases found with
  | false => trivial
  | true => rfl

/-- Whether an answer depends on what the call finds, as followed here. -/
def isInquiring : ServiceCall -> Bool
  | .refresh _ => true
  | .validateToken _ => true
  | .deleteUser _ => true
  | .deleteApp _ => true
  | _ => false

/-- Every call of the service is answered by what it has found, whatever its store calls answer. -/
theorem follows_inquiries :
    (service.program call).Follows (inquiry service call) (concludes call) .begun := by
  cases inquiring : call.isInquiring with
  | true =>
    cases call with
    | refresh token => exact (Operation.follows_run _ _ _ _).mpr (inquiry_refresh service token)
    | validateToken token => exact inquiry_validateToken service token
    | deleteUser userId => exact (Operation.follows_run _ _ _ _).mpr (inquiry_deleteUser service userId)
    | deleteApp appId => exact (Operation.follows_run _ _ _ _).mpr (inquiry_deleteApp service appId)
    | _ => cases inquiring
  | false =>
    refine Program.follows_of_closed (fun _ => True) ?_ (fun _ _ => trivial) (fun _ _ _ _ => trivial)
      (fun _ _ _ => rfl) ?_ _ trivial
    · intro stage request _
      cases call <;> trivial
    · intro stage result _
      cases call <;> trivial

end ServiceCall

/-- The inquiries of all calls of a service. -/
def Service.inquiries (service : Service) : Tracking service Inquiry where
  discipline := ServiceCall.inquiry service
  fits := ServiceCall.concludes
  start := .begun
  follows := ServiceCall.follows_inquiries service

/-! ## Deletions -/

/-- What a deletion was to take away is gone. -/
def ServiceCall.HasDeleted (store : CredentialStore) : ServiceCall -> Prop
  | .deleteUser userId => store.LostUser userId
  | .deleteApp appId => store.LostApp appId
  | _ => True

theorem ServiceCall.HasDeleted.answer {store : CredentialStore} {call : ServiceCall}
    (deleted : call.HasDeleted store) (now : Instant) (request : CredentialCall) :
    call.HasDeleted (store.answer now request).2 := by
  cases call with
  | deleteUser userId => exact CredentialStore.LostUser.answer deleted now request
  | deleteApp appId => exact CredentialStore.LostApp.answer deleted now request
  | _ => trivial

/-- A call comes to have deleted something only by doing so. -/
theorem ServiceCall.hasDeleted_replied {service : Service} {world : World} {call : ServiceCall}
    {stage : Inquiry} {request : StoreCall} {ending : Ending} {reply : Option (Except Error request.Reply)}
    (sound : world.stores.credentials.IsSound) (asked : call.inquires service stage request)
    (told : (world.endCall request ending).1 = reply)
    (before : stage = .deleted -> call.HasDeleted (world.endCall request ending).2.stores.credentials)
    (done : stage.replied request reply = .deleted) :
    call.HasDeleted (world.endCall request ending).2.stores.credentials := by
  unfold Inquiry.replied at done
  split at done
  · cases done
  · cases done
  · next userId =>
    rcases World.credentials_of_reply told with ⟨answered, same⟩
    cases call with
    | deleteUser id =>
      cases asked
      rw [same]
      exact sound.lostUser_deleteUser (Except.ok.inj answered)
    | deleteApp id => cases asked
    | _ => trivial
  · next appId =>
    rcases World.credentials_of_reply told with ⟨answered, same⟩
    cases call with
    | deleteUser id => cases asked
    | deleteApp id =>
      cases asked
      rw [same]
      exact sound.lostApp_deleteApp (Except.ok.inj answered)
    | _ => trivial
  · cases done
  · cases done
  · exact before done

/-- The records are sound, and whatever calls have deleted is gone. -/
structure Deleting (world : World) (standings : List (ServiceCall × Inquiry)) : Prop where
  sound : world.stores.credentials.IsSound
  deleted : forall (number : Nat) (call : ServiceCall) (stage : Inquiry),
    standings[number]? = some (call, stage) -> stage = .deleted -> call.HasDeleted world.stores.credentials

/-- No event brings back what was deleted. -/
theorem Deleting.kept {service : Service} {system : System} {event : Event}
    {standings later : List (ServiceCall × Inquiry)} {world : World}
    (move : service.inquiries.Move system event standings world later)
    (deleting : Deleting system.world standings) : Deleting world later := by
  refine ⟨?_, move.each (fun _ call stage => stage = .deleted -> call.HasDeleted world.stores.credentials) _
    ?_ (fun _ _ _ => id) ?_ ?_ ?_⟩
  · exact move.credentials CredentialStore.IsSound (fun _ now call sound => sound.answer now call) deleting.sound
  · exact fun _ _ _ => nofun
  · rintro number call stage bytes _ rfl holds
    exact holds
  · rintro number call stage request ending rfl requested asked rfl holds
    exact ServiceCall.hasDeleted_replied deleting.sound asked rfl holds
  · intro number call stage stands done
    exact move.credentials call.HasDeleted (fun _ now request deleted => deleted.answer now request)
      (deleting.deleted number call stage stands done)

/-- When a deletion is answered with success, what it was to delete is gone. -/
theorem hasDeleted_of_answered {service : Service} {world : World} {events : List Event}
    (sound : world.stores.credentials.IsSound) {call : ServiceCall} {answer : Except Error call.Reply}
    (answered : ⟨call, .done answer⟩ ∈ ((System.start world).run service events).processes)
    (deletes : forall stage, call.concludes stage answer -> stage = .deleted) :
    call.HasDeleted ((System.start world).run service events).world.stores.credentials := by
  have always : (System.start world).Throughout service (fun _ _ => True) events :=
    System.throughout_of_forall_mem fun _ _ => trivial
  have nobody : service.inquiries.Tracks (System.start world).processes [] := Tracking.tracks_nil
  rcases nobody.run (fun so standings => Deleting ((System.start world).run service so).world standings)
    (fun past event _ later _ _ move holds => by
      rw [System.run_append]
      exact holds.kept move) always ⟨sound, fun _ _ _ => nofun⟩ with ⟨standings, tracks, deleting⟩
  rcases List.getElem?_of_mem answered with ⟨number, found⟩
  rcases tracks.stands found with ⟨stage, stands, concluded⟩
  exact deleting.deleted number call stage stands (deletes stage concluded)

/-! ## Calls that begin later -/

/-- Users and apps that are gone stay away. -/
structure CredentialStore.LossesStay (gone store : CredentialStore) : Prop where
  users : forall userId, gone.LostUser userId -> store.LostUser userId
  apps : forall appId, gone.LostApp appId -> store.LostApp appId

theorem CredentialStore.LossesStay.answer {gone store : CredentialStore} (losses : gone.LossesStay store)
    (now : Instant) (call : CredentialCall) : gone.LossesStay (store.answer now call).2 :=
  ⟨fun userId lost => (losses.users userId lost).answer now call,
    fun appId lost => (losses.apps appId lost).answer now call⟩

/-- What a call has found is not among what was gone before. -/
def ServiceCall.Avoids (gone : CredentialStore) : ServiceCall -> Inquiry -> Prop
  | .refresh _, .identified record => ¬gone.LostUser record.userId
  | .refresh _, .resolved record => ¬gone.LostUser record.userId ∧ ¬gone.LostApp record.appId
  | .validateToken _, .vouched appId => ¬gone.LostApp appId
  | _, _ => True

/-- A call finds nothing that is gone. -/
theorem ServiceCall.Avoids.replied {service : Service} {gone : CredentialStore} {world : World}
    {call : ServiceCall} {stage : Inquiry} {request : StoreCall} {ending : Ending}
    {reply : Option (Except Error request.Reply)} (losses : gone.LossesStay world.stores.credentials)
    (asked : call.inquires service stage request) (told : (world.endCall request ending).1 = reply)
    (before : call.Avoids gone stage) : call.Avoids gone (stage.replied request reply) := by
  unfold Inquiry.replied
  split
  · cases call <;> trivial
  · next appId app =>
    cases call with
    | validateToken token =>
      intro lost
      have found := Except.ok.inj (World.credentials_of_reply told).1
      cases found.symm.trans (losses.apps appId lost).gone
    | _ => trivial
  · cases call <;> trivial
  · cases call <;> trivial
  · next record userId user =>
    cases call with
    | refresh token =>
      cases asked
      intro lost
      have found := Except.ok.inj (World.credentials_of_reply told).1
      cases found.symm.trans (losses.users _ lost).gone
    | _ => trivial
  · next record appId app =>
    cases call with
    | refresh token =>
      cases asked
      refine ⟨before, fun lost => ?_⟩
      have found := Except.ok.inj (World.credentials_of_reply told).1
      cases found.symm.trans (losses.apps _ lost).gone
    | _ => trivial
  · exact before

/-- The record of the token of a refresh that has been found. -/
def Inquiry.record? : Inquiry -> Option RefreshToken
  | .presented record => some record
  | .identified record => some record
  | .resolved record => some record
  | _ => none

/-- A refresh finds only records that its token has. -/
theorem Inquiry.record?_replied {service : Service} {token : String} {world : World} {stage : Inquiry}
    {request : StoreCall} {ending : Ending} {reply : Option (Except Error request.Reply)}
    (asked : (ServiceCall.refresh token).inquires service stage request)
    (told : (world.endCall request ending).1 = reply) (record : RefreshToken)
    (found : (stage.replied request reply).record? = some record) :
    stage.record? = some record ∨ world.record? (service.tokenDigest token) = some record := by
  unfold Inquiry.replied at found
  split at found
  · cases asked
    exact .inr ((world.record?_of_find told).trans found)
  · cases found
  · cases found
  · cases found
  · exact .inl found
  · exact .inl found
  · exact .inl found

/-- Calls that begin once some users and apps are gone find none of these.  All
records of a token that such refreshes find are of a kind. -/
structure Latecomers (gone : CredentialStore) (count : Nat) (token : String) (kind : RefreshToken -> Prop)
    (world : World) (standings : List (ServiceCall × Inquiry)) : Prop where
  losses : gone.LossesStay world.stores.credentials
  avoids : forall (number : Nat) (call : ServiceCall) (stage : Inquiry),
    standings[number]? = some (call, stage) -> count ≤ number -> call.Avoids gone stage
  kinds : forall (number : Nat) (call : ServiceCall) (stage : Inquiry),
    standings[number]? = some (call, stage) -> count ≤ number -> call = .refresh token ->
    forall record, stage.record? = some record -> kind record

theorem Latecomers.kept {service : Service} {gone : CredentialStore} {count : Nat} {token : String}
    {kind : RefreshToken -> Prop} {system : System} {event : Event}
    {standings later : List (ServiceCall × Inquiry)} {world : World}
    (recorded : ∀ record ∈ system.world.record? (service.tokenDigest token), kind record)
    (move : service.inquiries.Move system event standings world later)
    (latecomers : Latecomers gone count token kind system.world standings) :
    Latecomers gone count token kind world later := by
  refine ⟨?_, ?_, ?_⟩
  · exact move.credentials gone.LossesStay (fun _ now call losses => losses.answer now call) latecomers.losses
  · refine move.each (fun number call stage => count ≤ number -> call.Avoids gone stage) _ ?_
      (fun _ _ _ => id) ?_ ?_ latecomers.avoids
    · intro number call _ _
      cases call <;> trivial
    · rintro number call stage bytes _ rfl holds
      exact holds
    · intro number call stage request ending told requested asked changed holds late
      exact (holds late).replied latecomers.losses asked rfl
  · refine move.each (fun number call stage => count ≤ number -> call = .refresh token ->
      forall record, stage.record? = some record -> kind record) _ ?_ (fun _ _ _ => id) ?_ ?_ latecomers.kinds
    · exact fun _ _ _ _ _ _ => nofun
    · rintro number call stage bytes _ rfl holds
      exact holds
    · rintro number _ stage request ending told requested asked changed holds late rfl record found
      rcases Inquiry.record?_replied asked rfl record found with old | new
      · exact holds late rfl record old
      · exact recorded record new

/-- After a run that meets the condition, calls that began in it have found nothing that was gone. -/
theorem Latecomers.run {service : Service} {world : World} {before after : List Event} {middle final : System}
    (reached : (System.start world).run service before = middle) (ran : middle.run service after = final)
    (token : String) (kind : RefreshToken -> Prop)
    (recorded : middle.Throughout service
      (fun system _ => ∀ record ∈ system.world.record? (service.tokenDigest token), kind record) after) :
    ∃ standings, service.inquiries.Tracks final.processes standings ∧
      Latecomers middle.world.stores.credentials middle.processes.length token kind final.world standings := by
  rcases service.inquiries.tracks_start world before with ⟨standings, tracks⟩
  rw [reached] at tracks
  have nobody {number : Nat} {call : ServiceCall} {stage : Inquiry}
      (stands : standings[number]? = some (call, stage)) : ¬middle.processes.length ≤ number := by
    have inside := (List.getElem?_eq_some_iff.mp stands).1
    rw [tracks.length_eq] at inside
    exact Nat.not_le.mpr inside
  have start : Latecomers middle.world.stores.credentials middle.processes.length token kind middle.world
      standings :=
    ⟨⟨fun _ lost => lost, fun _ lost => lost⟩, fun _ _ _ stands late => absurd late (nobody stands),
      fun _ _ _ stands late => absurd late (nobody stands)⟩
  rcases tracks.run (fun so standings => Latecomers middle.world.stores.credentials middle.processes.length
      token kind (middle.run service so).world standings)
    (fun past event _ later meets _ move holds => by
      rw [System.run_append]
      exact holds.kept meets move) recorded start with ⟨last, ends, latecomers⟩
  rw [ran] at ends latecomers
  exact ⟨last, ends, latecomers⟩

/-- A refresh that began once some users and apps were gone has succeeded only
with a token of a user and an app that were not. -/
theorem Latecomers.refreshed {service : Service} {gone : CredentialStore} {count : Nat} {token : String}
    {kind : RefreshToken -> Prop} {system : System} {standings : List (ServiceCall × Inquiry)}
    (tracks : service.inquiries.Tracks system.processes standings)
    (latecomers : Latecomers gone count token kind system.world standings) {number : Nat} {session : Session}
    (late : count ≤ number) (found : system.processes[number]? = some ⟨.refresh token, .done (.ok session)⟩) :
    ∃ record, kind record ∧ ¬gone.LostUser record.userId ∧ ¬gone.LostApp record.appId := by
  rcases tracks.stands found with ⟨stage, stands, record, rfl⟩
  exact ⟨record, latecomers.kinds number _ _ stands late rfl record rfl,
    latecomers.avoids number _ _ stands late⟩

/-- A deletion that was answered with success is final.  Whatever calls are in
progress by then or begin later, and whatever becomes of their store calls, a
refresh that begins after the deletion of a user fails with every token that
is recorded for the user.  So does a refresh that begins after the deletion of
an app with a token that is recorded for the app, and no access token that
names the app is reported good.  It does not matter when the tokens are
recorded. -/
theorem deletion_is_final (service : Service) (world : World) (before after : List Event)
    (middle final : System) (sound : world.stores.credentials.IsSound)
    (reached : (System.start world).run service before = middle) (ran : middle.run service after = final) :
    (forall userId, ⟨.deleteUser userId, .done (.ok ())⟩ ∈ middle.processes ->
      forall number token answer, middle.processes.length ≤ number ->
        final.processes[number]? = some ⟨.refresh token, .done answer⟩ ->
        middle.Throughout service (fun system _ =>
          ∀ record ∈ system.world.record? (service.tokenDigest token), record.userId = userId) after ->
        ∃ error, answer = .error error) ∧
    (forall appId, ⟨.deleteApp appId, .done (.ok ())⟩ ∈ middle.processes ->
      (forall number token answer, middle.processes.length ≤ number ->
        final.processes[number]? = some ⟨.refresh token, .done answer⟩ ->
        middle.Throughout service (fun system _ =>
          ∀ record ∈ system.world.record? (service.tokenDigest token), record.appId = appId) after ->
        ∃ error, answer = .error error) ∧
      forall number token answer, middle.processes.length ≤ number ->
        final.processes[number]? = some ⟨.validateToken token, .done answer⟩ ->
        AccessToken.Names token appId -> forall claims, answer ≠ .ok (some claims)) := by
  have refreshes (token : String) (kind : RefreshToken -> Prop)
      (recorded : middle.Throughout service
        (fun system _ => ∀ record ∈ system.world.record? (service.tokenDigest token), kind record) after)
      (number : Nat) (answer : Except Error Session) (late : middle.processes.length ≤ number)
      (found : final.processes[number]? = some ⟨.refresh token, .done answer⟩)
      (lost : forall record, kind record -> middle.world.stores.credentials.LostUser record.userId ∨
        middle.world.stores.credentials.LostApp record.appId) : ∃ error, answer = .error error := by
    rcases Latecomers.run reached ran token kind recorded with ⟨standings, tracks, latecomers⟩
    cases answer with
    | error error => exact ⟨error, rfl⟩
    | ok session =>
      rcases latecomers.refreshed tracks late found with ⟨record, so, user, app⟩
      exact absurd (lost record so) (not_or.mpr ⟨user, app⟩)
  subst reached
  refine ⟨fun userId deleted number token answer late found recorded => ?_, fun appId deleted =>
    ⟨fun number token answer late found recorded => ?_, fun number token answer late found names => ?_⟩⟩
  · have lost := hasDeleted_of_answered sound deleted fun _ => id
    exact refreshes token (·.userId = userId) recorded number answer late found fun record same => .inl (same ▸ lost)
  · have lost := hasDeleted_of_answered sound deleted fun _ => id
    exact refreshes token (·.appId = appId) recorded number answer late found fun record same => .inr (same ▸ lost)
  · rintro claims rfl
    have lost := hasDeleted_of_answered sound deleted fun _ => id
    have always : ((System.start world).run service before).Throughout service (fun _ _ => True) after :=
      System.throughout_of_forall_mem fun _ _ => trivial
    rcases Latecomers.run rfl ran token (fun _ => True) (always.mono fun _ _ _ _ _ => trivial) with
      ⟨standings, tracks, latecomers⟩
    rcases tracks.stands found with ⟨stage, stands, found, rfl, claimed⟩
    cases claimed.symm.trans ((AccessToken.claimedApp_eq_ok_iff token appId).mpr names)
    exact latecomers.avoids number _ _ stands late lost

namespace Sample

/-- An access token of the user for the app. -/
def accessToken : String :=
  match AccessToken.issue primitives ⟨1, email, 1, false⟩ "secret" 60 ⟨0⟩ with
  | .ok (issued, _) => issued
  | .error _ => ""

/-- The user logs in and is deleted, and so is the app, before the login has stored its token. -/
def untilGone : List Event :=
  .begin (.login email password 1) :: List.replicate 6 (.proceed 0 .carriedOut) ++
    .begin (.deleteUser 1) :: List.replicate 2 (.proceed 1 .carriedOut) ++
    .begin (.deleteApp 1) :: List.replicate 2 (.proceed 2 .carriedOut)

/-- The login stores its token.  It is presented, and so is an access token. -/
def afterGone : List Event :=
  .proceed 0 .carriedOut :: .begin (.refresh token) :: List.replicate 3 (.proceed 3 .carriedOut) ++
    .begin (.validateToken accessToken) :: List.replicate 2 (.proceed 4 .carriedOut)

/-- The user and the app are gone. -/
def deserted : System := (System.start world).run service untilGone

/-- The end of all this. -/
def haunted : System := deserted.run service afterGone

end Sample

/-- A login that is overtaken by the deletions of its user and its app still
stores its token, and neither the token nor an access token is good for anything. -/
theorem deletion_is_final_of_login :
    Sample.world.stores.credentials.IsSound ∧
      ⟨.deleteUser 1, .done (.ok ())⟩ ∈ Sample.deserted.processes ∧
      ⟨.deleteApp 1, .done (.ok ())⟩ ∈ Sample.deserted.processes ∧
      Sample.deserted.Throughout Sample.service (fun system _ =>
        ∀ record ∈ system.world.record? (Sample.service.tokenDigest Sample.token), record.userId = 1)
        Sample.afterGone ∧
      Sample.deserted.Throughout Sample.service (fun system _ =>
        ∀ record ∈ system.world.record? (Sample.service.tokenDigest Sample.token), record.appId = 1)
        Sample.afterGone ∧
      AccessToken.Names Sample.accessToken 1 ∧
      (Sample.haunted.world.record? (Sample.service.tokenDigest Sample.token)).isSome = true ∧
      (∃ error, Sample.haunted.processes[3]? = some ⟨.refresh Sample.token, .done (.error error)⟩) ∧
      ∃ answer, Sample.haunted.processes[4]? = some ⟨.validateToken Sample.accessToken, .done answer⟩ ∧
        forall claims, answer ≠ .ok (some claims) := by
  have sound : Sample.world.stores.credentials.IsSound :=
    (CredentialStore.isSound_empty.createUser _ _).createApp _ _
  have observed : Sample.deserted.verdicts =
        [(.login Sample.email Sample.password 1, none), (.deleteUser 1, some true),
          (.deleteApp 1, some true)] ∧
      Sample.haunted.verdicts =
        [(.login Sample.email Sample.password 1, some true), (.deleteUser 1, some true),
          (.deleteApp 1, some true), (.refresh Sample.token, some false),
          (.validateToken Sample.accessToken, some true)] ∧
      Sample.deserted.Throughout Sample.service (fun system _ =>
        ∀ record ∈ system.world.record? (Sample.service.tokenDigest Sample.token), record.userId = 1)
        Sample.afterGone ∧
      Sample.deserted.Throughout Sample.service (fun system _ =>
        ∀ record ∈ system.world.record? (Sample.service.tokenDigest Sample.token), record.appId = 1)
        Sample.afterGone ∧
      (Sample.haunted.world.record? (Sample.service.tokenDigest Sample.token)).isSome = true := by
    decide +kernel
  rcases observed with ⟨deletions, verdicts, users, apps, stored⟩
  have names : AccessToken.Names Sample.accessToken 1 :=
    (AccessToken.claimedApp_eq_ok_iff _ _).mp (by decide +kernel)
  have count : Sample.deserted.processes.length = 3 := by
    rw [← List.length_map, show Sample.deserted.processes.map _ = _ from deletions]
    rfl
  have user : ⟨.deleteUser 1, .done (.ok ())⟩ ∈ Sample.deserted.processes := by
    rcases System.exists_answer (congrArg (·[1]?) deletions) with ⟨_ | _, found, verdict⟩
    · cases verdict
    · exact List.mem_of_getElem? found
  have app : ⟨.deleteApp 1, .done (.ok ())⟩ ∈ Sample.deserted.processes := by
    rcases System.exists_answer (congrArg (·[2]?) deletions) with ⟨_ | _, found, verdict⟩
    · cases verdict
    · exact List.mem_of_getElem? found
  rcases System.exists_answer (congrArg (·[3]?) verdicts) with ⟨refreshed, refresh, _⟩
  rcases System.exists_answer (congrArg (·[4]?) verdicts) with ⟨checked, check, _⟩
  have final := deletion_is_final Sample.service Sample.world Sample.untilGone Sample.afterGone Sample.deserted
    Sample.haunted sound rfl rfl
  rcases final.1 1 user 3 _ refreshed (Nat.le_of_eq count) refresh users with ⟨error, rfl⟩
  refine ⟨sound, user, app, users, apps, names, stored, ⟨error, refresh⟩, checked, check, ?_⟩
  exact (final.2 1 app).2 4 _ checked (Nat.le_trans (Nat.le_of_eq count) (Nat.le_succ 3)) check names

end SingleSignOn

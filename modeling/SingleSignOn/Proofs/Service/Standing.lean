import SingleSignOn.Proofs.Service.Outcome
import SingleSignOn.Proofs.Store.Indexing
import SingleSignOn.Service.Requests

namespace SingleSignOn

/-!
# What becomes of an app

An access token is checked under the secret of its app, and only while that
app is there and enabled.  So all that matters of an app for the tokens that
were issued for it is its standing: its secret and its status.  Of the store
calls that come after its creation only two change the standing of an app:
one deletes it, one sets its status.  An id is not given out again, so a
deleted app does not come back.
-/

/-- The secret of an app, and whether it may be used. -/
structure Standing where
  secret : String
  enabled : Bool
  deriving DecidableEq, Repr

namespace CredentialStore

/-- The standing of an app that there is. -/
def standing? (store : CredentialStore) (appId : AppId) : Option Standing :=
  (store.apps[appId]?).map fun app => ⟨app.secret, app.enabled⟩

end CredentialStore

/-- A store call that neither deletes the app nor sets its status. -/
def StoreCall.Spares (appId : AppId) : StoreCall -> Prop
  | .credentials (.deleteApp id) => id ≠ appId
  | .credentials (.setAppEnabled id _) => id ≠ appId
  | _ => True

/-! ## Store calls -/

namespace CredentialStore

variable {store : CredentialStore} {appId : AppId}

/-- An app record that takes the place of one with the same secret and status changes no standing. -/
theorem standing?_replace {id : AppId} {old app : App} (stored : store.apps[id]? = some old)
    (secret : app.secret = old.secret) (enabled : app.enabled = old.enabled) (names : Table String AppId) :
    ({ store with apps := store.apps.insert id app, appNames := names }).standing? appId =
      store.standing? appId := by
  unfold standing?
  rw [Table.getElem?_insert]
  by_cases same : id = appId
  · rw [if_pos same, ← same, stored, Option.map_some, Option.map_some, secret, enabled]
  · rw [if_neg same]

/-- The next app is another one than any that was ever created. -/
theorem standing?_createApp (known : appId ≤ (store.appCount : Int)) (now : Instant) (new : NewApp) :
    (store.createApp now new).2.standing? appId = store.standing? appId ∧
      appId ≤ ((store.createApp now new).2.appCount : Int) := by
  unfold createApp
  split
  · exact ⟨rfl, known⟩
  · have different : ((store.appCount : Int) + 1) ≠ appId := Int.ne_of_gt (Int.lt_add_one_of_le known)
    refine ⟨?_, Int.le_trans known (Int.ofNat_le.mpr (Nat.le_succ _))⟩
    unfold standing?
    rw [Table.getElem?_insert, if_neg different]

theorem standing?_updateApp (store : CredentialStore) (id : AppId) (update : AppUpdate) :
    (store.updateApp id update).2.standing? appId = store.standing? appId ∧
      (store.updateApp id update).2.appCount = store.appCount := by
  unfold updateApp
  cases stored : store.apps[id]? with
  | none => exact ⟨rfl, rfl⟩
  | some current =>
    have secret : (update.applyTo current).secret = current.secret := rfl
    have enabled : (update.applyTo current).enabled = current.enabled := rfl
    dsimp only
    split
    · exact ⟨standing?_replace stored secret enabled _, rfl⟩
    · split
      · exact ⟨rfl, rfl⟩
      · exact ⟨standing?_replace stored secret enabled _, rfl⟩

theorem standing?_deleteApp (store : CredentialStore) (id appId : AppId) :
    (store.deleteApp id).2.standing? appId = (if id = appId then none else store.standing? appId) ∧
      (store.deleteApp id).2.appCount = store.appCount := by
  unfold deleteApp
  cases stored : store.apps[id]? with
  | none =>
    refine ⟨?_, rfl⟩
    by_cases same : id = appId
    · rw [if_pos same, ← same, standing?, stored, Option.map_none]
    · rw [if_neg same]
  | some app =>
    refine ⟨?_, rfl⟩
    show Option.map _ (store.apps.erase id)[appId]? = _
    rw [Table.getElem?_erase]
    by_cases same : id = appId
    · rw [if_pos same, if_pos same, Option.map_none]
    · rw [if_neg same, if_neg same, standing?]

theorem standing?_setAppEnabled (store : CredentialStore) (id appId : AppId) (enabled : Bool) :
    (store.setAppEnabled id enabled).2.standing? appId =
        (if id = appId then (store.standing? appId).map ({ · with enabled := enabled })
        else store.standing? appId) ∧
      (store.setAppEnabled id enabled).2.appCount = store.appCount := by
  unfold setAppEnabled
  cases stored : store.apps[id]? with
  | none =>
    refine ⟨?_, rfl⟩
    by_cases same : id = appId
    · rw [if_pos same, ← same, standing?, stored, Option.map_none, Option.map_none]
    · rw [if_neg same]
  | some app =>
    refine ⟨?_, rfl⟩
    show Option.map _ (store.apps.insert id _)[appId]? = _
    rw [Table.getElem?_insert]
    by_cases same : id = appId
    · subst same
      rw [if_pos rfl, if_pos rfl, standing?, stored, Option.map_some, Option.map_some, Option.map_some]
    · rw [if_neg same, if_neg same, standing?]

/-- An app was created, and this is its standing now. -/
structure Stands (store : CredentialStore) (appId : AppId) (standing : Option Standing) : Prop where
  known : appId ≤ (store.appCount : Int)
  current : store.standing? appId = standing

theorem Stands.answer {standing : Option Standing} (stands : store.Stands appId standing) (now : Instant)
    {call : CredentialCall} (spares : (StoreCall.credentials call).Spares appId) :
    (store.answer now call).2.Stands appId standing := by
  cases call with
  | createUser user =>
    simp only [CredentialStore.answer, createUser]
    split
    · exact stands
    · exact ⟨stands.known, stands.current⟩
  | updateUser id update =>
    simp only [CredentialStore.answer, updateUser]
    repeat' split
    all_goals exact ⟨stands.known, stands.current⟩
  | deleteUser id =>
    simp only [CredentialStore.answer, deleteUser]
    split
    · exact stands
    · exact ⟨stands.known, stands.current⟩
  | createApp app =>
    rcases standing?_createApp stands.known now app with ⟨same, known⟩
    exact ⟨known, same.trans stands.current⟩
  | updateApp id update =>
    rcases store.standing?_updateApp id update with ⟨same, count⟩
    exact ⟨count ▸ stands.known, same.trans stands.current⟩
  | deleteApp id =>
    rcases store.standing?_deleteApp id appId with ⟨same, count⟩
    exact ⟨count ▸ stands.known, (same.trans (if_neg spares)).trans stands.current⟩
  | setAppEnabled id enabled =>
    rcases store.standing?_setAppEnabled id appId enabled with ⟨same, count⟩
    exact ⟨count ▸ stands.known, (same.trans (if_neg spares)).trans stands.current⟩
  | setAdmin userId appId isAdmin => exact ⟨stands.known, stands.current⟩
  | removeAdmin userId appId => exact ⟨stands.known, stands.current⟩
  | _ => exact stands

end CredentialStore

/-! ## Calls to the service -/

namespace ServiceCall

/-- A call that is to delete the app or to set its status. -/
def decidesOn (appId : AppId) : ServiceCall -> Bool
  | .deleteApp id => id == appId
  | .setEnabled id _ => id == appId
  | _ => false

theorem spares_of_makes {call : ServiceCall} {request : StoreCall} {appId : AppId}
    (other : call.decidesOn appId = false) (made : call.Makes request) : request.Spares appId := by
  cases made <;> first | trivial | exact beq_eq_false_iff_ne.mp other

end ServiceCall

namespace Service

variable (service : Service) {mishaps : Mishaps} {passage later : Passage} {appId : AppId}
  {standing : Option Standing}

theorem stands_of_other {call : ServiceCall} (other : call.decidesOn appId = false)
    (mishaps : Mishaps) (passage : Passage)
    (stands : passage.world.stores.credentials.Stands appId standing) :
    ((service.program call).runUnder mishaps passage).2.world.stores.credentials.Stands appId standing := by
  refine Program.runUnder_preserves (·.credentials.Stands appId standing)
    (ServiceCall.callsOnly_makes service call) (fun stores now request made stands => ?_) mishaps passage stands
  have spares := ServiceCall.spares_of_makes other made
  cases request with
  | credentials request => exact stands.answer now spares
  | tokens request => exact stands

/-- A deletion that is answered with success has taken the app away, and one that
failed has left its standing as it was. -/
theorem deleteApp_runUnder_cases {answer : Except Error Unit}
    (stands : passage.world.stores.credentials.Stands appId standing)
    (done : Program.runUnder mishaps (service.deleteApp appId).run passage = (answer, later)) :
    (answer = .ok () ∧ later.world.stores.credentials.Stands appId none) ∨
      ∃ error, answer = .error error ∧ later.world.stores.credentials.Stands appId standing := by
  have revoked := runUnder_tokens_credentials service mishaps passage (.deleteByApp appId)
  unfold Service.deleteApp at done
  rw [Operation.runUnder_bind] at done
  rcases first : Program.runUnder mishaps (service.tokens (.deleteByApp appId)).run passage with
    ⟨error | count, between⟩
  · rw [first] at done revoked
    cases done
    exact .inr ⟨error, rfl, revoked ▸ stands⟩
  rw [first] at done revoked
  replace stands : between.world.stores.credentials.Stands appId standing := revoked ▸ stands
  rcases Operation.runUnder_unless_cases done with ⟨rfl, asked⟩ | ⟨error, rfl, ⟨cause, asked⟩ | asked⟩
  · rcases runUnder_credentials_ok asked with ⟨_, same⟩
    rcases between.world.stores.credentials.standing?_deleteApp appId appId with ⟨gone, count⟩
    refine .inl ⟨rfl, ?_⟩
    rw [same]
    exact ⟨count ▸ stands.known, gone.trans (if_pos rfl)⟩
  · rcases runUnder_credentials_cases asked with ⟨_, _, same⟩ | ⟨impossible, _⟩
    · exact .inr ⟨error, rfl, same ▸ stands⟩
    · cases impossible
  · rcases runUnder_credentials_ok asked with ⟨absent, same⟩
    have kept : (between.world.stores.credentials.deleteApp appId).2 = between.world.stores.credentials :=
      (CredentialStore.deleteApp_of_absent (Prod.ext (Except.ok.inj absent) rfl)).1
    rw [← kept] at stands
    refine .inr ⟨error, rfl, ?_⟩
    rw [same]
    exact stands

/-- A change of the status that is answered with success has been made, and one
that failed has not. -/
theorem setEnabled_runUnder_cases {enabled : Bool} {answer : Except Error Unit}
    (stands : passage.world.stores.credentials.Stands appId standing)
    (done : Program.runUnder mishaps (service.setEnabled appId enabled).run passage = (answer, later)) :
    (answer = .ok () ∧ later.world.stores.credentials.Stands appId
        (standing.map ({ · with enabled := enabled }))) ∨
      ∃ error, answer = .error error ∧ later.world.stores.credentials.Stands appId standing := by
  rcases Operation.runUnder_unless_cases done with ⟨rfl, asked⟩ | ⟨error, rfl, ⟨cause, asked⟩ | asked⟩
  · rcases runUnder_credentials_ok asked with ⟨_, same⟩
    rcases passage.world.stores.credentials.standing?_setAppEnabled appId appId enabled with
      ⟨changed, count⟩
    refine .inl ⟨rfl, ?_⟩
    rw [same]
    exact ⟨count ▸ stands.known, (changed.trans (if_pos rfl)).trans (stands.current ▸ rfl)⟩
  · rcases runUnder_credentials_cases asked with ⟨_, _, same⟩ | ⟨impossible, _⟩
    · exact .inr ⟨error, rfl, same ▸ stands⟩
    · cases impossible
  · rcases runUnder_credentials_ok asked with ⟨absent, same⟩
    have kept : (passage.world.stores.credentials.setAppEnabled appId enabled).2 =
        passage.world.stores.credentials :=
      CredentialStore.setAppEnabled_of_absent (Prod.ext (Except.ok.inj absent) rfl)
    rw [← kept] at stands
    refine .inr ⟨error, rfl, ?_⟩
    rw [same]
    exact stands

end Service

/-! ## Runs -/

namespace Answered

/-- Whether the app was deleted. -/
def deletesApp (appId : AppId) : Answered -> Bool
  | ⟨.deleteApp id, .ok _, _⟩ => id == appId
  | _ => false

/-- The status that the app was given. -/
def status? (appId : AppId) : Answered -> Option Bool
  | ⟨.setEnabled id enabled, .ok _, _⟩ => if id = appId then some enabled else none
  | _ => none

/-- The standing of the app after an answer, from the one before it. -/
def standing? (appId : AppId) (before : Option Standing) (answered : Answered) : Option Standing :=
  if answered.deletesApp appId then none
  else before.map fun standing => ⟨standing.secret, (answered.status? appId).getD standing.enabled⟩

theorem standing?_of_error (call : ServiceCall) (appId : AppId) (error : Error) (instant : Instant)
    (before : Option Standing) : standing? appId before ⟨call, .error error, instant⟩ = before := by
  have alive : deletesApp appId ⟨call, .error error, instant⟩ = false := by cases call <;> rfl
  have unchanged : status? appId ⟨call, .error error, instant⟩ = none := by cases call <;> rfl
  rw [standing?, alive, unchanged]
  exact Option.map_id'

theorem standing?_of_other {call : ServiceCall} {appId : AppId} (other : call.decidesOn appId = false)
    (answer : Except Error call.Reply) (instant : Instant) (before : Option Standing) :
    standing? appId before ⟨call, answer, instant⟩ = before := by
  have alive : deletesApp appId ⟨call, answer, instant⟩ = false := by
    cases call with
    | deleteApp id =>
      cases answer with
      | error error => rfl
      | ok done => exact other
    | _ => rfl
  have unchanged : status? appId ⟨call, answer, instant⟩ = none := by
    cases call with
    | setEnabled id enabled =>
      cases answer with
      | error error => rfl
      | ok done => exact if_neg (beq_eq_false_iff_ne.mp other)
    | _ => rfl
  rw [standing?, alive, unchanged]
  exact Option.map_id'

end Answered

theorem foldl_standing?_none (appId : AppId) (answers : List Answered) :
    answers.foldl (Answered.standing? appId) none = none := by
  induction answers with
  | nil => rfl
  | cons first answers hypothesis =>
    rw [List.foldl_cons, Answered.standing?, Option.map_none, ite_self]
    exact hypothesis

/-- The standing of an app after some answers: gone if it was deleted, and
otherwise with the latest status that it was given. -/
theorem foldl_standing? (appId : AppId) (secret : String) (enabled : Bool) (answers : List Answered) :
    answers.foldl (Answered.standing? appId) (some ⟨secret, enabled⟩) =
      if answers.any (Answered.deletesApp appId) then none
      else some ⟨secret, (answers.reverse.findSome? (Answered.status? appId)).getD enabled⟩ := by
  induction answers generalizing enabled with
  | nil => rfl
  | cons first answers hypothesis =>
    rw [List.foldl_cons, Answered.standing?, List.any_cons]
    cases first.deletesApp appId with
    | true => exact foldl_standing?_none appId answers
    | false =>
      have latest : ((first :: answers).reverse.findSome? (Answered.status? appId)).getD enabled =
          (answers.reverse.findSome? (Answered.status? appId)).getD
            ((first.status? appId).getD enabled) := by
        rw [List.reverse_cons, List.findSome?_append, List.findSome?_singleton, Option.getD_or]
      rw [latest]
      exact hypothesis _

namespace Service

/-- An answer tells what has become of the app. -/
theorem stands_respond (service : Service) (world : World) (request : Request) {appId : AppId}
    {standing : Option Standing} (stands : world.stores.credentials.Stands appId standing) :
    (service.respond world request).2.stores.credentials.Stands appId
      ((service.respond world request).1.standing? appId standing) := by
  rcases request with ⟨call, now, mishaps⟩
  rcases ran : (service.program call).runUnder mishaps ⟨{ world with now := now }, []⟩ with ⟨answer, later⟩
  rw [service.respond_of_runUnder ran]
  cases decides : call.decidesOn appId with
  | false =>
    have kept := service.stands_of_other decides mishaps ⟨{ world with now := now }, []⟩ stands
    rw [ran] at kept
    rw [Answered.standing?_of_other decides]
    exact kept
  | true =>
    cases call with
    | deleteApp id =>
      obtain rfl : id = appId := beq_iff_eq.mp decides
      rcases service.deleteApp_runUnder_cases stands ran with ⟨rfl, gone⟩ | ⟨error, rfl, kept⟩
      · rw [Answered.standing?, Answered.deletesApp, beq_self_eq_true]
        exact gone
      · rw [Answered.standing?_of_error]
        exact kept
    | setEnabled id enabled =>
      obtain rfl : id = appId := beq_iff_eq.mp decides
      rcases service.setEnabled_runUnder_cases stands ran with ⟨rfl, changed⟩ | ⟨error, rfl, kept⟩
      · rw [Answered.standing?, Answered.status?, if_pos rfl]
        exact changed
      · rw [Answered.standing?_of_error]
        exact kept
    | _ => cases decides

theorem stands_serve (service : Service) (world : World) (requests : List Request) {appId : AppId}
    {standing : Option Standing} (stands : world.stores.credentials.Stands appId standing) :
    (service.serve world requests).2.stores.credentials.Stands appId
      ((service.serve world requests).1.foldl (Answered.standing? appId) standing) := by
  induction requests generalizing world standing with
  | nil => exact stands
  | cons request later hypothesis =>
    exact hypothesis _ (service.stands_respond world request stands)

end Service

end SingleSignOn

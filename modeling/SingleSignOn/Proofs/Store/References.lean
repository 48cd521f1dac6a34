import SingleSignOn.Proofs.Store.Filing
import SingleSignOn.Proofs.Store.TokenCalls
import SingleSignOn.Store.World

namespace SingleSignOn

/-!
# References between the stores

A refresh token names a user and an app, and so does a grant.  Neither store
checks that they exist, and the two stores know nothing of each other.  Here
it is said what a store call must not do for every reference to lead
somewhere; all other calls may be made in any state.
-/

namespace CredentialStore

/-- A user is stored under an id, and shows it. -/
def HasUser (store : CredentialStore) (id : UserId) : Prop :=
  ∃ user, store.users[id]? = some user ∧ user.id = id

/-- An app is stored under an id, and shows it. -/
def HasApp (store : CredentialStore) (id : AppId) : Prop :=
  ∃ app, store.apps[id]? = some app ∧ app.id = id

variable {store : CredentialStore}

theorem IsFiled.hasUser_iff (filed : store.IsFiled) (id : UserId) : store.HasUser id ↔ id ∈ store.users := by
  rw [Std.ExtTreeMap.mem_iff_isSome_getElem?, Option.isSome_iff_exists]
  exact exists_congr fun user => and_iff_left_of_imp (filed.users id user)

theorem IsFiled.hasApp_iff (filed : store.IsFiled) (id : AppId) : store.HasApp id ↔ id ∈ store.apps := by
  rw [Std.ExtTreeMap.mem_iff_isSome_getElem?, Option.isSome_iff_exists]
  exact exists_congr fun app => and_iff_left_of_imp (filed.apps id app)

/-- A user stays unless they are deleted. -/
theorem mem_users_answer {id : UserId} (stored : id ∈ store.users) (now : Instant) {call : CredentialCall}
    (stays : call ≠ .deleteUser id) : id ∈ (store.answer now call).2.users := by
  cases call with
  | createUser user =>
    simp only [CredentialStore.answer, createUser]
    split
    · exact stored
    · exact Std.ExtTreeMap.mem_insert.mpr (.inr stored)
  | updateUser other update =>
    simp only [CredentialStore.answer, updateUser]
    repeat' split
    all_goals first | exact stored | exact Std.ExtTreeMap.mem_insert.mpr (.inr stored)
  | deleteUser other =>
    simp only [CredentialStore.answer, deleteUser]
    split
    · exact stored
    · refine Std.ExtTreeMap.mem_erase.mpr ⟨fun same => stays ?_, stored⟩
      rw [Std.LawfulEqCmp.eq_of_compare same]
  | createApp app =>
    simp only [CredentialStore.answer, createApp]
    split <;> exact stored
  | updateApp other update =>
    simp only [CredentialStore.answer, updateApp]
    repeat' split
    all_goals exact stored
  | deleteApp other =>
    simp only [CredentialStore.answer, deleteApp]
    split <;> exact stored
  | setAppEnabled other enabled =>
    simp only [CredentialStore.answer, setAppEnabled]
    split <;> exact stored
  | _ => exact stored

/-- An app stays unless it is deleted. -/
theorem mem_apps_answer {id : AppId} (stored : id ∈ store.apps) (now : Instant) {call : CredentialCall}
    (stays : call ≠ .deleteApp id) : id ∈ (store.answer now call).2.apps := by
  cases call with
  | createUser user =>
    simp only [CredentialStore.answer, createUser]
    split <;> exact stored
  | updateUser other update =>
    simp only [CredentialStore.answer, updateUser]
    repeat' split
    all_goals exact stored
  | deleteUser other =>
    simp only [CredentialStore.answer, deleteUser]
    split <;> exact stored
  | createApp app =>
    simp only [CredentialStore.answer, createApp]
    split
    · exact stored
    · exact Std.ExtTreeMap.mem_insert.mpr (.inr stored)
  | updateApp other update =>
    simp only [CredentialStore.answer, updateApp]
    repeat' split
    all_goals first | exact stored | exact Std.ExtTreeMap.mem_insert.mpr (.inr stored)
  | deleteApp other =>
    simp only [CredentialStore.answer, deleteApp]
    split
    · exact stored
    · refine Std.ExtTreeMap.mem_erase.mpr ⟨fun same => stays ?_, stored⟩
      rw [Std.LawfulEqCmp.eq_of_compare same]
  | setAppEnabled other enabled =>
    simp only [CredentialStore.answer, setAppEnabled]
    split
    · exact stored
    · exact Std.ExtTreeMap.mem_insert.mpr (.inr stored)
  | _ => exact stored

/-- A grant was set, or it was there before and neither side of it was deleted. -/
theorem getElem?_grants_answer (now : Instant) {call : CredentialCall} {grant : Grant} {isAdmin : Bool}
    (granted : (store.answer now call).2.grants[grant]? = some isAdmin) :
    call = .setAdmin grant.userId grant.appId isAdmin ∨
      (store.grants[grant]? = some isAdmin ∧
        (call = .deleteUser grant.userId -> grant.userId ∉ store.users) ∧
        (call = .deleteApp grant.appId -> grant.appId ∉ store.apps)) := by
  cases call with
  | createUser user =>
    simp only [CredentialStore.answer, createUser] at granted
    split at granted <;> exact .inr ⟨granted, nofun, nofun⟩
  | updateUser other update =>
    simp only [CredentialStore.answer, updateUser] at granted
    repeat' split at granted
    all_goals exact .inr ⟨granted, nofun, nofun⟩
  | deleteUser other =>
    simp only [CredentialStore.answer, deleteUser] at granted
    split at granted
    · next absent =>
      refine .inr ⟨granted, fun same stored => ?_, nofun⟩
      cases same
      rw [Std.ExtTreeMap.mem_iff_isSome_getElem?, absent] at stored
      cases stored
    · rw [Std.ExtTreeMap.getElem?_filter', Option.filter_eq_some_iff] at granted
      refine .inr ⟨granted.1, fun same => ?_, nofun⟩
      cases same
      exact absurd rfl (bne_iff_ne.mp granted.2)
  | createApp app =>
    simp only [CredentialStore.answer, createApp] at granted
    split at granted <;> exact .inr ⟨granted, nofun, nofun⟩
  | updateApp other update =>
    simp only [CredentialStore.answer, updateApp] at granted
    repeat' split at granted
    all_goals exact .inr ⟨granted, nofun, nofun⟩
  | deleteApp other =>
    simp only [CredentialStore.answer, deleteApp] at granted
    split at granted
    · next absent =>
      refine .inr ⟨granted, nofun, fun same stored => ?_⟩
      cases same
      rw [Std.ExtTreeMap.mem_iff_isSome_getElem?, absent] at stored
      cases stored
    · rw [Std.ExtTreeMap.getElem?_filter', Option.filter_eq_some_iff] at granted
      refine .inr ⟨granted.1, nofun, fun same => ?_⟩
      cases same
      exact absurd rfl (bne_iff_ne.mp granted.2)
  | setAppEnabled other enabled =>
    simp only [CredentialStore.answer, setAppEnabled] at granted
    split at granted <;> exact .inr ⟨granted, nofun, nofun⟩
  | setAdmin userId appId value =>
    simp only [CredentialStore.answer, setAdmin, Std.ExtTreeMap.getElem?_insert] at granted
    split at granted
    · next same =>
      cases Std.LawfulEqCmp.eq_of_compare same
      cases granted
      exact .inl rfl
    · exact .inr ⟨granted, nofun, nofun⟩
  | removeAdmin userId appId =>
    simp only [CredentialStore.answer, removeAdmin, Std.ExtTreeMap.getElem?_erase] at granted
    split at granted
    · cases granted
    · exact .inr ⟨granted, nofun, nofun⟩
  | _ => exact .inr ⟨granted, nofun, nofun⟩

end CredentialStore

namespace Stores

/-- Every refresh token and every grant names a user and an app that are stored. -/
structure IsReferential (stores : Stores) : Prop where
  tokens : forall (digest : String) (token : RefreshToken), stores.tokens.tokens[digest]? = some token ->
    stores.credentials.HasUser token.userId ∧ stores.credentials.HasApp token.appId
  grants : forall (grant : Grant) (isAdmin : Bool), stores.credentials.grants[grant]? = some isAdmin ->
    stores.credentials.HasUser grant.userId ∧ stores.credentials.HasApp grant.appId

/-- What the references ask of a store call: what is named has to be stored
when it is named, and must not be deleted while a refresh token names it. -/
def Permits (stores : Stores) : StoreCall -> Prop
  | .tokens (.create token) =>
    stores.credentials.HasUser token.userId ∧ stores.credentials.HasApp token.appId
  | .credentials (.setAdmin userId appId _) =>
    stores.credentials.HasUser userId ∧ stores.credentials.HasApp appId
  | .credentials (.deleteUser id) =>
    forall (digest : String) (token : RefreshToken), stores.tokens.tokens[digest]? = some token -> token.userId ≠ id
  | .credentials (.deleteApp id) =>
    forall (digest : String) (token : RefreshToken), stores.tokens.tokens[digest]? = some token -> token.appId ≠ id
  | _ => True

/-- Records are filed under their own ids, and every reference leads to one. -/
structure IsCoherent (stores : Stores) : Prop where
  filed : stores.credentials.IsFiled
  referential : stores.IsReferential

theorem isCoherent_empty : Stores.empty.IsCoherent := by
  refine ⟨CredentialStore.isFiled_empty, ⟨fun digest token found => ?_, fun grant isAdmin found => ?_⟩⟩
  · cases found
  · cases found

variable {stores : Stores}

/-- What a grant or a refresh token names is still there after a call to the
store of users, apps and grants that does not delete it. -/
private theorem named_answer (filed : stores.credentials.IsFiled) (now : Instant) (call : CredentialCall)
    {userId : UserId} {appId : AppId} (user : stores.credentials.HasUser userId)
    (app : stores.credentials.HasApp appId) (keepsUser : call ≠ .deleteUser userId)
    (keepsApp : call ≠ .deleteApp appId) :
    (stores.credentials.answer now call).2.HasUser userId ∧
      (stores.credentials.answer now call).2.HasApp appId := by
  have after := filed.answer now call
  rw [after.hasUser_iff, after.hasApp_iff]
  rw [filed.hasUser_iff] at user
  rw [filed.hasApp_iff] at app
  exact ⟨CredentialStore.mem_users_answer user now keepsUser, CredentialStore.mem_apps_answer app now keepsApp⟩

/-- A call that the references permit keeps them. -/
theorem IsCoherent.answer (coherent : stores.IsCoherent) (now : Instant) (request : StoreCall)
    (permitted : stores.Permits request) : (stores.answer now request).2.IsCoherent := by
  obtain ⟨filed, tokens, grants⟩ := coherent
  cases request with
  | credentials call =>
    refine ⟨filed.answer now call, fun digest token found => ?_, fun grant isAdmin granted => ?_⟩
    · refine named_answer filed now _ (tokens digest token found).1 (tokens digest token found).2 ?_ ?_
      · rintro rfl
        exact permitted digest token found rfl
      · rintro rfl
        exact permitted digest token found rfl
    · rcases CredentialStore.getElem?_grants_answer now granted with rfl | ⟨before, user, app⟩
      · exact named_answer filed now (.setAdmin _ _ _) permitted.1 permitted.2 nofun nofun
      · have named := grants grant isAdmin before
        refine named_answer filed now _ named.1 named.2 (fun same => ?_) (fun same => ?_)
        · exact user same ((filed.hasUser_iff _).mp named.1)
        · exact app same ((filed.hasApp_iff _).mp named.2)
  | tokens call =>
    refine ⟨filed, fun digest token found => ?_, grants⟩
    have effect : (StoreCall.tokens call).effect now digest stores.tokens.tokens[digest]? = some token :=
      (stores.tokens.getElem?_answer now call digest).symm.trans found
    cases added : (StoreCall.tokens call).created? with
    | none => exact tokens digest token (StoreCall.effect_le added effect)
    | some new =>
      cases call with
      | create record =>
        cases before : stores.tokens.tokens[digest]? with
        | some other =>
          rw [before] at effect
          exact tokens digest token (before.trans effect)
        | none =>
          simp only [before, StoreCall.effect, TokenCall.effect] at effect
          split at effect
          · cases effect
            exact permitted
          · cases effect
      | _ => cases added

end Stores

end SingleSignOn

import SingleSignOn.Store.Faults

namespace SingleSignOn

/-!
# Records are filed under their own ids

A user is found under the id that their record shows, and so is an app.  The
store without any record is filed so, and every call keeps it that way.
-/

/-- Every entry of a table is found under the key that it shows itself. -/
def FiledBy {Key Value : Type} [Ord Key] [Std.TransOrd Key] (keyOf : Value -> Key)
    (table : Table Key Value) : Prop :=
  forall key value, table[key]? = some value -> keyOf value = key

namespace FiledBy

variable {Key Value : Type} [Ord Key] [Std.TransOrd Key] [Std.LawfulEqOrd Key] {keyOf : Value -> Key}
  {table : Table Key Value}

omit [Std.LawfulEqOrd Key] in
theorem empty : FiledBy keyOf (∅ : Table Key Value) := by
  intro key value found
  cases found

theorem insert (filed : FiledBy keyOf table) {key : Key} {value : Value}
    (same : keyOf value = key) :
    FiledBy keyOf (table.insert key value) := by
  intro other found stored
  rw [Std.ExtTreeMap.getElem?_insert] at stored
  split at stored
  · next equal =>
    cases stored
    exact same.trans (Std.LawfulEqCmp.eq_of_compare equal)
  · exact filed other found stored

omit [Std.LawfulEqOrd Key] in
theorem erase (filed : FiledBy keyOf table) (key : Key) : FiledBy keyOf (table.erase key) := by
  intro other found stored
  rw [Std.ExtTreeMap.getElem?_erase] at stored
  split at stored
  · cases stored
  · exact filed other found stored

end FiledBy

namespace CredentialStore

/-- Users and apps are filed under their own ids. -/
structure IsFiled (store : CredentialStore) : Prop where
  users : FiledBy User.id store.users
  apps : FiledBy App.id store.apps

theorem isFiled_empty : CredentialStore.empty.IsFiled :=
  ⟨.empty, .empty⟩

namespace IsFiled

variable {store : CredentialStore} (filed : store.IsFiled)

include filed

theorem createUser (now : Instant) (user : NewUser) : (store.createUser now user).2.IsFiled := by
  unfold CredentialStore.createUser
  split
  · exact filed
  · exact ⟨filed.users.insert rfl, filed.apps⟩

theorem updateUser (id : UserId) (update : UserUpdate) :
    (store.updateUser id update).2.IsFiled := by
  unfold CredentialStore.updateUser
  split
  · exact filed
  · next current found =>
    have same : (update.applyTo current).id = id := filed.users id current found
    dsimp only
    split
    · exact ⟨filed.users.insert same, filed.apps⟩
    · split
      · exact filed
      · exact ⟨filed.users.insert same, filed.apps⟩

theorem deleteUser (id : UserId) : (store.deleteUser id).2.IsFiled := by
  unfold CredentialStore.deleteUser
  split
  · exact filed
  · exact ⟨filed.users.erase id, filed.apps⟩

theorem createApp (now : Instant) (app : NewApp) : (store.createApp now app).2.IsFiled := by
  unfold CredentialStore.createApp
  split
  · exact filed
  · exact ⟨filed.users, filed.apps.insert rfl⟩

theorem updateApp (id : AppId) (update : AppUpdate) : (store.updateApp id update).2.IsFiled := by
  unfold CredentialStore.updateApp
  split
  · exact filed
  · next current found =>
    have same : (update.applyTo current).id = id := filed.apps id current found
    dsimp only
    split
    · exact ⟨filed.users, filed.apps.insert same⟩
    · split
      · exact filed
      · exact ⟨filed.users, filed.apps.insert same⟩

theorem deleteApp (id : AppId) : (store.deleteApp id).2.IsFiled := by
  unfold CredentialStore.deleteApp
  split
  · exact filed
  · exact ⟨filed.users, filed.apps.erase id⟩

theorem setAppEnabled (id : AppId) (enabled : Bool) :
    (store.setAppEnabled id enabled).2.IsFiled := by
  unfold CredentialStore.setAppEnabled
  split
  · exact filed
  · next app found => exact ⟨filed.users, filed.apps.insert (filed.apps id app found)⟩

theorem answer (now : Instant) (call : CredentialCall) : (store.answer now call).2.IsFiled := by
  cases call with
  | createUser user => exact filed.createUser now user
  | updateUser id update => exact filed.updateUser id update
  | deleteUser id => exact filed.deleteUser id
  | createApp app => exact filed.createApp now app
  | updateApp id update => exact filed.updateApp id update
  | deleteApp id => exact filed.deleteApp id
  | setAppEnabled id enabled => exact filed.setAppEnabled id enabled
  | setAdmin userId appId isAdmin => exact ⟨filed.users, filed.apps⟩
  | removeAdmin userId appId => exact ⟨filed.users, filed.apps⟩
  | _ => exact filed

end IsFiled

end CredentialStore

namespace World

variable {world : World} {ending : Ending}

/-- A call to the store of users, apps and grants that is answered with success was carried out. -/
theorem credentials_of_reply {request : CredentialCall} {value : request.Reply}
    (replied : (world.endCall (.credentials request) ending).1 = some (.ok value)) :
    (world.stores.credentials.answer world.now request).1 = .ok value ∧
      (world.endCall (.credentials request) ending).2.stores.credentials =
        (world.stores.credentials.answer world.now request).2 := by
  cases ending with
  | refused error => cases replied
  | givenUp => cases replied
  | carriedOut => exact ⟨Option.some.inj replied, rfl⟩
  | miscounted =>
    have answered : (world.stores.credentials.answer world.now request).1.map id = .ok value :=
      Option.some.inj replied
    rw [Except.map_id] at answered
    exact ⟨answered, rfl⟩

/-- What every call keeps of users, apps and grants is kept however a store call ends. -/
theorem credentials_endCall (holds : CredentialStore -> Prop)
    (kept : forall store now call, holds store -> holds (CredentialStore.answer store now call).2)
    (request : StoreCall) (ending : Ending) (before : holds world.stores.credentials) :
    holds (world.endCall request ending).2.stores.credentials := by
  have answered : holds (world.answer request).2.stores.credentials := by
    cases request with
    | credentials call => exact kept _ world.now call before
    | tokens call => exact before
  cases ending with
  | refused error => exact before
  | givenUp => exact before
  | carriedOut => exact answered
  | miscounted => exact answered

end World

/-- However a store call ends, records stay filed under their own ids. -/
theorem World.isFiled_endCall (world : World) (filed : world.stores.credentials.IsFiled)
    (request : StoreCall) (ending : Ending) :
    (world.endCall request ending).2.stores.credentials.IsFiled :=
  credentials_endCall CredentialStore.IsFiled (fun _ now call filed => filed.answer now call) request ending filed

end SingleSignOn

import SingleSignOn.Proofs.History.Ledger
import SingleSignOn.Proofs.Service.Outcome
import SingleSignOn.Proofs.Store.Rows

namespace SingleSignOn

/-!
# The ledger knows the users, apps and grants

The answers to the calls so far determine who the users are, what emails they
have, which apps there are and who is an admin.  So the rows of the ledger
are the records of the store, and each call keeps them so.
-/

/-- The rows are the users of a table with their emails. -/
def ListsUsers (rows : List (UserId × String)) (table : Table UserId User) : Prop :=
  forall id email, (id, email) ∈ rows ↔ exists user, table[id]? = some user ∧ user.email = email

namespace ListsUsers

variable {rows : List (UserId × String)} {table : Table UserId User} (lists : ListsUsers rows table)

include lists

theorem insert {id : UserId} (user : User) (absent : table[id]? = none) :
    ListsUsers ((id, user.email) :: rows) (table.insert id user) := by
  intro other email
  rw [List.mem_cons, lists other email, Table.getElem?_insert]
  by_cases same : id = other
  · subst same
    rw [if_pos rfl, absent]
    simp only [Prod.mk.injEq, true_and, reduceCtorEq, false_and, exists_false, or_false,
      Option.some.injEq, exists_eq_left', eq_comm]
  · rw [if_neg same]
    simp only [Prod.mk.injEq, Ne.symm same, false_and, false_or]

theorem replace {id : UserId} {old : User} (stored : table[id]? = some old) (user : User)
    (change : Option String) (changed : user.email = change.getD old.email) :
    ListsUsers (rows.map fun row => if row.1 = id then (row.1, change.getD row.2) else row)
      (table.insert id user) := by
  intro other email
  rw [List.mem_map, Table.getElem?_insert]
  constructor
  · rintro ⟨⟨key, before⟩, listed, shown⟩
    obtain ⟨found, here, rfl⟩ := (lists key before).mp listed
    by_cases same : key = id
    · subst same
      rw [if_pos rfl] at shown
      cases shown
      cases stored.symm.trans here
      rw [if_pos rfl]
      exact ⟨user, rfl, changed⟩
    · rw [if_neg same] at shown
      cases shown
      rw [if_neg (Ne.symm same)]
      exact ⟨found, here, rfl⟩
  · rintro ⟨found, here, rfl⟩
    split at here
    · next same =>
      cases here
      subst same
      refine ⟨(id, old.email), (lists id old.email).mpr ⟨old, stored, rfl⟩, ?_⟩
      rw [if_pos rfl, changed]
    · next different =>
      refine ⟨(other, found.email), (lists other found.email).mpr ⟨found, here, rfl⟩, ?_⟩
      rw [if_neg (Ne.symm different)]

theorem erase (id : UserId) : ListsUsers (rows.filter fun row => row.1 != id) (table.erase id) := by
  intro other email
  rw [List.mem_filter, lists other email, Table.getElem?_erase]
  by_cases same : id = other
  · rw [if_pos same]
    simp only [same, bne_self_eq_false, Bool.false_eq_true, and_false, reduceCtorEq, false_and,
      exists_false]
  · rw [if_neg same]
    simp only [bne_iff_ne, ne_eq, Ne.symm same, not_false_iff, and_true]

end ListsUsers

/-- The rows are the apps of a table. -/
def ListsApps (apps : List App) (table : Table AppId App) : Prop :=
  forall app, app ∈ apps ↔ table[app.id]? = some app

namespace ListsApps

variable {apps : List App} {table : Table AppId App} (lists : ListsApps apps table)

include lists

theorem insert (app : App) (absent : table[app.id]? = none) :
    ListsApps (app :: apps) (table.insert app.id app) :=
  Lists.insert lists absent fun _ => List.mem_cons

theorem replace (filed : FiledBy App.id table) {id : AppId} {old : App}
    (stored : table[id]? = some old) (change : App -> App)
    (keeps : forall app, (change app).id = app.id) :
    ListsApps (apps.map fun app => if app.id = id then change app else app)
      (table.insert id (change old)) :=
  Lists.replace lists filed stored change ((keeps old).trans (filed id old stored))

theorem erase (id : AppId) : ListsApps (apps.filter fun app => app.id != id) (table.erase id) := by
  intro other
  rw [List.mem_filter, lists other, Table.getElem?_erase]
  by_cases same : id = other.id
  · rw [if_pos same]
    simp only [same, bne_self_eq_false, Bool.false_eq_true, and_false, reduceCtorEq]
  · rw [if_neg same]
    simp only [bne_iff_ne, ne_eq, Ne.symm same, not_false_iff, and_true]

end ListsApps

/-- The rows are the grants of a table that are in force. -/
def ListsAdmins (admins : List Grant) (table : Table Grant Bool) : Prop :=
  forall grant, grant ∈ admins ↔ table[grant]? = some true

namespace ListsAdmins

variable {admins : List Grant} {table : Table Grant Bool} (lists : ListsAdmins admins table)

include lists

theorem insert (grant : Grant) : ListsAdmins (grant :: admins) (table.insert grant true) := by
  intro other
  rw [List.mem_cons, lists other, Table.getElem?_insert]
  by_cases same : grant = other
  · rw [if_pos same]
    simp only [same, true_or]
  · rw [if_neg same]
    simp only [Ne.symm same, false_or]

theorem erase (grant : Grant) :
    ListsAdmins (admins.filter fun other => other != grant) (table.erase grant) := by
  intro other
  rw [List.mem_filter, lists other, Table.getElem?_erase]
  by_cases same : grant = other
  · rw [if_pos same]
    simp only [same, bne_self_eq_false, Bool.false_eq_true, and_false, reduceCtorEq]
  · rw [if_neg same]
    simp only [bne_iff_ne, ne_eq, Ne.symm same, not_false_iff, and_true]

theorem filter {keep : Grant -> Bool} :
    ListsAdmins (admins.filter keep) (table.filter fun grant _ => keep grant) := by
  intro other
  rw [List.mem_filter, lists other, Std.ExtTreeMap.getElem?_filter', Option.filter_eq_some_iff]

end ListsAdmins

/-- The ledger lists the users, the apps and the grants of a store. -/
structure Ledger.Mirrors (ledger : Ledger) (store : CredentialStore) : Prop where
  users : ListsUsers ledger.users store.users
  apps : ListsApps ledger.apps store.apps
  admins : ListsAdmins ledger.admins store.grants

namespace Ledger.Mirrors

variable {ledger : Ledger} {store after : CredentialStore} (mirrors : ledger.Mirrors store)

theorem empty : Ledger.empty.Mirrors .empty := by
  refine ⟨fun id email => iff_of_false List.not_mem_nil ?_,
    fun app => iff_of_false List.not_mem_nil ?_,
    fun grant => iff_of_false List.not_mem_nil ?_⟩
  · rintro ⟨user, found, -⟩
    cases found
  · intro found
    cases found
  · intro found
    cases found

include mirrors

theorem user_of_hasUser {userId : UserId} (has : ledger.HasUser userId) :
    ∃ user, store.users[userId]? = some user := by
  obtain ⟨email, listed⟩ := has
  obtain ⟨user, stored, -⟩ := (mirrors.users userId email).mp listed
  exact ⟨user, stored⟩

theorem app_of_hasApp {appId : AppId} (has : ledger.HasApp appId) :
    ∃ app, store.apps[appId]? = some app := by
  obtain ⟨app, listed, rfl⟩ := has
  exact ⟨app, (mirrors.apps app).mp listed⟩

theorem emailOf?_eq {userId : UserId} {user : User} (stored : store.users[userId]? = some user) :
    ledger.emailOf? userId = some user.email := by
  have listed := (mirrors.users userId user.email).mpr ⟨user, stored, rfl⟩
  refine congrArg (Option.map Prod.snd)
    (find?_eq_some_of_unique listed (beq_self_eq_true userId) ?_)
  rintro ⟨other, email⟩ member same
  obtain rfl : other = userId := beq_iff_eq.mp same
  obtain ⟨again, found, rfl⟩ := (mirrors.users other email).mp member
  cases stored.symm.trans found
  rfl

theorem userOf?_eq (sound : store.IsSound) {email : String} {user : User}
    (found : store.findUserByEmail email = some user) : ledger.userOf? email = some user.id := by
  obtain ⟨stored, rfl⟩ := (sound.findUserByEmail_eq_some_iff email user).mp found
  have listed := (mirrors.users user.id user.email).mpr ⟨user, stored, rfl⟩
  refine congrArg (Option.map Prod.fst)
    (find?_eq_some_of_unique listed (beq_self_eq_true user.email) ?_)
  rintro ⟨other, email⟩ member same
  cases beq_iff_eq.mp same
  obtain ⟨again, found, shown⟩ := (mirrors.users other user.email).mp member
  cases sound.emails.eq_of_keyOf_eq found stored shown
  rfl

theorem app?_eq (sound : store.IsSound) {appId : AppId} {app : App}
    (stored : store.apps[appId]? = some app) :
    ledger.app? appId = some app := by
  have same := sound.apps appId app stored
  subst same
  refine find?_eq_some_of_unique ((mirrors.apps app).mpr stored) (beq_self_eq_true app.id)
    fun other member same => ?_
  have found := (mirrors.apps other).mp member
  rw [beq_iff_eq.mp same, stored] at found
  exact (Option.some.inj found).symm

theorem isAdmin_eq (userId : UserId) (appId : AppId) :
    ledger.isAdmin userId appId = store.isAdmin userId appId := by
  rw [Ledger.isAdmin, CredentialStore.isAdmin, Bool.eq_iff_iff, List.contains_iff_mem,
    mirrors.admins]
  cases store.grants[(⟨userId, appId⟩ : Grant)]? with
  | none => exact ⟨fun found => (nomatch found), fun found => (nomatch found)⟩
  | some granted => exact ⟨fun same => Option.some.inj same, fun same => congrArg some same⟩

theorem createUser (sound : store.IsSound) {now : Instant} {new : NewUser} {user : User}
    (created : store.createUser now new = (.ok user, after)) :
    ListsUsers ((user.id, new.email) :: ledger.users) after.users ∧ after.apps = store.apps ∧
      after.grants = store.grants := by
  unfold CredentialStore.createUser at created
  split at created
  · cases created
  · cases created
    exact ⟨mirrors.users.insert ⟨_, _, _, _, _⟩ sound.userIds.getElem?_next, rfl, rfl⟩

theorem updateUser {id : UserId} {update : UserUpdate} {user : User}
    (updated : store.updateUser id update = (.ok (some user), after)) :
    ListsUsers (ledger.users.map fun row =>
        if row.1 = id then (row.1, update.email.getD row.2) else row) after.users ∧
      after.apps = store.apps ∧ after.grants = store.grants := by
  unfold CredentialStore.updateUser at updated
  cases stored : store.users[id]? with
  | none =>
    rw [stored] at updated
    cases updated
  | some old =>
    rw [stored] at updated
    dsimp only at updated
    have listed := mirrors.users.replace stored (update.applyTo old) update.email rfl
    split at updated
    · cases updated
      exact ⟨listed, rfl, rfl⟩
    split at updated
    · cases updated
    · cases updated
      exact ⟨listed, rfl, rfl⟩

theorem deleteUser {id : UserId} (deleted : store.deleteUser id = (true, after)) :
    ListsUsers (ledger.users.filter fun row => row.1 != id) after.users ∧ after.apps = store.apps ∧
      ListsAdmins (ledger.admins.filter fun grant => grant.userId != id) after.grants := by
  unfold CredentialStore.deleteUser at deleted
  split at deleted
  · cases deleted
  · cases deleted
    exact ⟨mirrors.users.erase id, rfl, mirrors.admins.filter⟩

theorem createApp (sound : store.IsSound) {now : Instant} {new : NewApp} {app : App}
    (created : store.createApp now new = (.ok app, after)) :
    ListsApps (app :: ledger.apps) after.apps ∧ after.users = store.users ∧
    after.grants = store.grants := by
  unfold CredentialStore.createApp at created
  split at created
  · cases created
  · cases created
    exact ⟨mirrors.apps.insert _ sound.appIds.getElem?_next, rfl, rfl⟩

theorem updateApp (sound : store.IsSound) {id : AppId} {update : AppUpdate} {app : App}
    (updated : store.updateApp id update = (.ok (some app), after)) :
    ListsApps (ledger.apps.map fun app =>
        if app.id = id then { app with name := update.name.getD app.name, link := update.link.getD app.link }
        else app) after.apps ∧
      after.users = store.users ∧ after.grants = store.grants := by
  unfold CredentialStore.updateApp at updated
  cases stored : store.apps[id]? with
  | none =>
    rw [stored] at updated
    cases updated
  | some old =>
    rw [stored] at updated
    dsimp only at updated
    have listed := mirrors.apps.replace sound.apps stored update.applyTo fun _ => rfl
    split at updated
    · cases updated
      exact ⟨listed, rfl, rfl⟩
    split at updated
    · cases updated
    · cases updated
      exact ⟨listed, rfl, rfl⟩

theorem setAppEnabled (sound : store.IsSound) {id : AppId} {enabled : Bool}
    (updated : store.setAppEnabled id enabled = (true, after)) :
    ListsApps (ledger.apps.map fun app =>
        if app.id = id then { app with enabled := enabled } else app) after.apps ∧
      after.users = store.users ∧ after.grants = store.grants := by
  unfold CredentialStore.setAppEnabled at updated
  split at updated
  · cases updated
  · next old stored =>
    cases updated
    exact ⟨mirrors.apps.replace sound.apps stored _ fun _ => rfl, rfl, rfl⟩

theorem deleteApp {id : AppId} (deleted : store.deleteApp id = (true, after)) :
    ListsApps (ledger.apps.filter fun app => app.id != id) after.apps ∧ after.users = store.users ∧
      ListsAdmins (ledger.admins.filter fun grant => grant.appId != id) after.grants := by
  unfold CredentialStore.deleteApp at deleted
  split at deleted
  · cases deleted
  · cases deleted
    exact ⟨mirrors.apps.erase id, rfl, mirrors.admins.filter⟩

end Ledger.Mirrors

/-- A call that fails changes nothing in the ledger's rows. -/
theorem Ledger.Mirrors.note_of_error {ledger : Ledger} {store : CredentialStore}
    (mirrors : ledger.Mirrors store) (call : ServiceCall) (error : Error) (instant : Instant) :
    (ledger.note ⟨call, .error error, instant⟩).Mirrors store := by
  cases call <;> exact ⟨mirrors.users, mirrors.apps, mirrors.admins⟩

/-- A call that does not open a session keeps the ledger in step with the users, apps and grants. -/
theorem Ledger.Mirrors.note {ledger : Ledger} {service : Service} {world later : World}
    {call : ServiceCall} {answer : Except Error call.Reply}
    (mirrors : ledger.Mirrors world.stores.credentials) (sound : world.stores.credentials.IsSound)
    (other : call.opensSession = false)
    (done : Operation.outcome (service.operation call) world = (answer, later))
    (instant : Instant) :
    (ledger.note ⟨call, answer, instant⟩).Mirrors later.stores.credentials := by
  cases call with
  | login email password appId => cases other
  | refresh token => cases other
  | register email password profile =>
    rcases service.register_cases done with
      ⟨error, rfl, same⟩ | ⟨hash, user, credentials, rfl, same, created⟩
    · rw [same]
      exact mirrors.note_of_error _ error instant
    · rw [same]
      obtain ⟨users, apps, grants⟩ := mirrors.createUser sound created
      exact ⟨users, apps ▸ mirrors.apps, grants ▸ mirrors.admins⟩
  | updateUser userId change =>
    rcases service.updateUser_cases done with
      ⟨error, rfl, same⟩ | ⟨user, rfl, same, email, -⟩ | ⟨hash, user, credentials, rfl, -, updated,
       same⟩
    · rw [same]
      exact mirrors.note_of_error _ error instant
    · rw [same]
      refine ⟨?_, mirrors.apps, mirrors.admins⟩
      show ListsUsers (ledger.users.map fun row =>
        if row.1 = userId then (row.1, change.email.getD row.2) else row) _
      simp only [email, Option.getD_none, Prod.eta, ite_self, List.map_id']
      exact mirrors.users
    · rw [same]
      obtain ⟨users, apps, grants⟩ := mirrors.updateUser updated
      exact ⟨users, apps ▸ mirrors.apps, grants ▸ mirrors.admins⟩
  | deleteUser userId =>
    obtain ⟨found, credentials, deleted, same, rfl⟩ := service.deleteUser_cases done
    rw [same]
    cases found with
    | false =>
      rw [(CredentialStore.deleteUser_of_absent deleted).1]
      exact mirrors.note_of_error _ _ instant
    | true =>
      obtain ⟨users, apps, grants⟩ := mirrors.deleteUser deleted
      exact ⟨users, apps ▸ mirrors.apps, grants⟩
  | createApp name link secret =>
    rcases service.createApp_cases done with
      ⟨error, rfl, same⟩ | ⟨chosen, app, credentials, rfl, same, created⟩
    · rw [same]
      exact mirrors.note_of_error _ error instant
    · rw [same]
      obtain ⟨apps, users, grants⟩ := mirrors.createApp sound created
      exact ⟨users ▸ mirrors.users, apps, grants ▸ mirrors.admins⟩
  | updateApp appId name link =>
    rcases service.updateApp_cases done with
      ⟨error, rfl, same⟩ | ⟨app, rfl, same, noName, noLink⟩ | ⟨app, credentials, rfl, same, updated⟩
    · rw [same]
      exact mirrors.note_of_error _ error instant
    · rw [same]
      refine ⟨mirrors.users, ?_, mirrors.admins⟩
      show ListsApps (ledger.apps.map fun app =>
        if app.id = appId then { app with name := name.getD app.name, link := link.getD app.link } else app) _
      simp only [noName, noLink, Option.getD_none, ite_self, List.map_id']
      exact mirrors.apps
    · rw [same]
      obtain ⟨apps, users, grants⟩ := mirrors.updateApp sound updated
      exact ⟨users ▸ mirrors.users, apps, grants ▸ mirrors.admins⟩
  | setEnabled appId enabled =>
    obtain ⟨found, credentials, updated, same, rfl⟩ := service.setEnabled_cases done
    rw [same]
    cases found with
    | false =>
      rw [CredentialStore.setAppEnabled_of_absent updated]
      exact mirrors.note_of_error _ _ instant
    | true =>
      obtain ⟨apps, users, grants⟩ := mirrors.setAppEnabled sound updated
      exact ⟨users ▸ mirrors.users, apps, grants ▸ mirrors.admins⟩
  | deleteApp appId =>
    obtain ⟨found, credentials, deleted, same, rfl⟩ := service.deleteApp_cases done
    rw [same]
    cases found with
    | false =>
      rw [(CredentialStore.deleteApp_of_absent deleted).1]
      exact mirrors.note_of_error _ _ instant
    | true =>
      obtain ⟨apps, users, grants⟩ := mirrors.deleteApp deleted
      exact ⟨users ▸ mirrors.users, apps, grants⟩
  | grantAdmin userId appId =>
    rcases service.grantAdmin_cases done with ⟨error, rfl, same⟩ | ⟨user, app, -, -, rfl, same⟩
    · rw [same]
      exact mirrors.note_of_error _ error instant
    · rw [same]
      exact ⟨mirrors.users, mirrors.apps, mirrors.admins.insert ⟨userId, appId⟩⟩
  | revokeAdmin userId appId =>
    obtain ⟨found, credentials, removed, same, rfl⟩ := service.revokeAdmin_cases done
    cases removed
    rw [same]
    exact ⟨mirrors.users, mirrors.apps, mirrors.admins.erase ⟨userId, appId⟩⟩
  | logout token =>
    obtain ⟨same, -⟩ := service.logout_cases done
    rw [same]
    exact ⟨mirrors.users, mirrors.apps, mirrors.admins⟩
  | sweep =>
    obtain ⟨same, -⟩ := service.sweep_cases done
    rw [same]
    exact ⟨mirrors.users, mirrors.apps, mirrors.admins⟩
  | _ =>
    rw [ServiceCall.stores_of_isReading rfl done]
    exact ⟨mirrors.users, mirrors.apps, mirrors.admins⟩

end SingleSignOn

import SingleSignOn.Proofs.Service.Outcome
import SingleSignOn.Proofs.Store.Rows
import SingleSignOn.Store.Tables

namespace SingleSignOn

/-!
# The store answers like plain tables

The store keeps an index of the emails and one of the names, and changes them
by hand in every call.  The tables have neither.  `Refines` relates the two:
the records are the rows in the order of their ids, and the indices follow
the records.  Each call gets the same answer from both and keeps them
related, so no run of calls can tell them apart.
-/

namespace CredentialStore.IsFiled

variable {store : CredentialStore} (filed : store.IsFiled)

include filed

/-- An entry of the list for an app, from either side. -/
theorem mem_listUsersForApp_iff (appId : AppId) (member : AppUser) :
    member ∈ store.listUsersForApp appId ↔ store.users[member.user.id]? = some member.user ∧
      store.grants[(⟨member.user.id, appId⟩ : Grant)]? = some member.isAdmin := by
  unfold CredentialStore.listUsersForApp
  rw [List.mem_filterMap]
  constructor
  · rintro ⟨⟨grant, isAdmin⟩, listed, joined⟩
    have granted := Std.ExtTreeMap.mem_toList_iff_getElem?_eq_some.mp listed
    rw [Option.ite_none_right_eq_some, Option.map_eq_some_iff] at joined
    rcases joined with ⟨rfl, user, stored, rfl⟩
    have same := filed.users grant.userId user stored
    exact ⟨same.symm ▸ stored, same.symm ▸ granted⟩
  · rintro ⟨stored, granted⟩
    refine ⟨(⟨member.user.id, appId⟩, member.isAdmin), ?_, ?_⟩
    · exact Std.ExtTreeMap.mem_toList_iff_getElem?_eq_some.mpr granted
    · exact Option.ite_none_right_eq_some.mpr ⟨rfl, Option.map_eq_some_iff.mpr ⟨member.user, stored, rfl⟩⟩

/-- Grants are in the order of their users, so those for one app are as well. -/
theorem increasing_listUsersForApp (appId : AppId) :
    (store.listUsersForApp appId).Pairwise fun before after => before.user.id < after.user.id := by
  refine Std.ExtTreeMap.ordered_keys_toList.filterMap _ ?_
  rintro ⟨grant, isAdmin⟩ ⟨later, alsoAdmin⟩ less before joined after alike
  rw [Option.ite_none_right_eq_some, Option.map_eq_some_iff] at joined alike
  rcases joined with ⟨rfl, user, stored, rfl⟩
  rcases alike with ⟨same, other, found, rfl⟩
  have users : compare grant.userId later.userId = .lt := by
    have both : (compare grant.userId later.userId).then (compare grant.appId later.appId) = .lt := less
    rwa [same, compare_eq_iff_eq.mpr rfl, Ordering.then_eq] at both
  rw [filed.users grant.userId user stored, filed.users later.userId other found]
  exact compare_lt_iff_lt.mp users

end CredentialStore.IsFiled

/-- The store holds what the tables hold. -/
structure CredentialStore.Refines (store : CredentialStore) (tables : Tables) : Prop where
  sound : store.IsSound
  users : ListsInOrder User.id tables.users store.users
  apps : ListsInOrder App.id tables.apps store.apps
  grants : forall grant, tables.grants.lookup grant = store.grants[grant]?
  userCount : tables.userCount = store.userCount
  appCount : tables.appCount = store.appCount

namespace CredentialStore.Refines

variable {store : CredentialStore} {tables : Tables}

theorem empty : CredentialStore.empty.Refines Tables.empty :=
  ⟨isSound_empty, .empty, .empty, fun _ => rfl, rfl, rfl⟩

variable (refines : store.Refines tables)

include refines

/-! ## Questions -/

theorem user?_eq (id : UserId) : tables.user? id = store.users[id]? :=
  refines.users.lists.find?_eq refines.sound.users id

theorem app?_eq (id : AppId) : tables.app? id = store.apps[id]? :=
  refines.apps.lists.find?_eq refines.sound.apps id

theorem findUserByEmail_eq (email : String) :
    (tables.users.find? fun user => user.email = email) = store.findUserByEmail email := by
  have unique : ∀ user ∈ tables.users, ∀ other ∈ tables.users, decide (user.email = email) = true ->
      decide (other.email = email) = true -> other = user := by
    intro user listed other there shows alike
    have found := (refines.users.lists user).mp listed
    have stored := (refines.users.lists other).mp there
    have emails := (of_decide_eq_true alike).trans (of_decide_eq_true shows).symm
    rw [refines.sound.emails.eq_of_keyOf_eq stored found emails, found] at stored
    exact (Option.some.inj stored).symm
  refine Option.ext fun user => ?_
  rw [find?_eq_some_iff_of_unique unique, refines.sound.findUserByEmail_eq_some_iff,
    refines.users.lists user, decide_eq_true_eq]

theorem listUsers_eq : store.listUsers = tables.users :=
  refines.users.toList_eq refines.sound.users

theorem listApps_eq : store.listApps = tables.apps :=
  refines.apps.toList_eq refines.sound.apps

theorem isAdmin_eq (userId : UserId) (appId : AppId) :
    (tables.grants.lookup ⟨userId, appId⟩).getD false = store.isAdmin userId appId :=
  congrArg (Option.getD · false) (refines.grants ⟨userId, appId⟩)

theorem listUsersForApp_eq (appId : AppId) : store.listUsersForApp appId = tables.listUsersForApp appId := by
  refine eq_of_increasing (fun member : AppUser => member.user.id)
    (refines.sound.toIsFiled.increasing_listUsersForApp appId) ?_ fun member => ?_
  · refine refines.users.increasing.filterMap _ ?_
    intro user other less before joined after alike
    rcases Option.map_eq_some_iff.mp joined with ⟨_, _, rfl⟩
    rcases Option.map_eq_some_iff.mp alike with ⟨_, _, rfl⟩
    exact less
  · rw [refines.sound.toIsFiled.mem_listUsersForApp_iff, Tables.listUsersForApp, List.mem_filterMap]
    constructor
    · rintro ⟨stored, granted⟩
      refine ⟨member.user, (refines.users.lists member.user).mpr stored, ?_⟩
      rw [refines.grants, granted]
      rfl
    · rintro ⟨user, listed, joined⟩
      rcases Option.map_eq_some_iff.mp joined with ⟨isAdmin, granted, rfl⟩
      exact ⟨(refines.users.lists user).mp listed, (refines.grants _).symm.trans granted⟩

/-! ## Changes -/

theorem createUser (now : Instant) (user : NewUser) :
    (store.createUser now user).1 = (tables.createUser now user).1 ∧
      (store.createUser now user).2.Refines (tables.createUser now user).2 := by
  have taken := any_keyOf_iff refines.users.lists refines.sound.users refines.sound.emails user.email
  have sound := refines.sound.createUser now user
  unfold CredentialStore.createUser at sound ⊢
  unfold Tables.createUser
  by_cases held : store.emails.contains user.email = true
  · rw [if_pos held, if_pos (taken.mpr held)]
    exact ⟨rfl, refines⟩
  · rw [if_neg held] at sound ⊢
    rw [if_neg (mt taken.mp held), refines.userCount]
    exact ⟨rfl, sound, refines.users.append refines.sound.userIds rfl, refines.apps, refines.grants, rfl,
      refines.appCount⟩

theorem updateUser (id : UserId) (update : UserUpdate) :
    (store.updateUser id update).1 = (tables.updateUser id update).1 ∧
      (store.updateUser id update).2.Refines (tables.updateUser id update).2 := by
  have sound := refines.sound.updateUser id update
  unfold CredentialStore.updateUser at sound ⊢
  unfold Tables.updateUser
  rw [refines.user?_eq]
  cases stored : store.users[id]? with
  | none => exact ⟨rfl, refines⟩
  | some current =>
    have shown : current.id = id := refines.sound.users id current stored
    have taken := any_other_iff refines.users.lists refines.sound.users refines.sound.emails stored update.email
    -- Field by field, the record that the store writes is the row that the tables write.
    have rows := refines.users.replace refines.sound.users stored (fun _ => update.applyTo current)
      fun _ _ => shown
    simp only [stored] at sound ⊢
    by_cases same : (update.applyTo current).email = current.email
    · rw [if_pos same] at sound ⊢
      rw [if_neg fun held => (taken.mp held).1 same]
      exact ⟨rfl, sound, rows, refines.apps, refines.grants, refines.userCount, refines.appCount⟩
    · rw [if_neg same] at sound ⊢
      by_cases held : store.emails.contains (update.applyTo current).email = true
      · rw [if_pos held, if_pos (taken.mpr ⟨same, held⟩)]
        exact ⟨rfl, refines⟩
      · rw [if_neg held] at sound ⊢
        rw [if_neg fun any => held (taken.mp any).2]
        exact ⟨rfl, sound, rows, refines.apps, refines.grants, refines.userCount, refines.appCount⟩

/-- The grants of one user or for one app are removed from the rows as they are from the table. -/
theorem lookup_grants_remove (side : Grant -> Int) (id : Int) (grant : Grant) :
    (tables.grants.filter fun row => side row.1 ≠ id).lookup grant =
      (store.grants.filter fun grant _ => side grant != id)[grant]? := by
  rw [lookup_filter (fun grant => decide (side grant ≠ id)), refines.grants,
    Std.ExtTreeMap.getElem?_filter', bne, beq_eq_decide, decide_not]
  cases store.grants[grant]? with
  | none => exact ite_self none
  | some isAdmin => rfl

theorem deleteUser (id : UserId) :
    (store.deleteUser id).1 = (tables.deleteUser id).1 ∧
      (store.deleteUser id).2.Refines (tables.deleteUser id).2 := by
  have sound := refines.sound.deleteUser id
  unfold CredentialStore.deleteUser at sound ⊢
  unfold Tables.deleteUser
  rw [refines.user?_eq]
  cases stored : store.users[id]? with
  | none => exact ⟨rfl, refines⟩
  | some user =>
    simp only [stored] at sound ⊢
    exact ⟨rfl, sound, refines.users.erase id, refines.apps,
      refines.lookup_grants_remove Grant.userId id, refines.userCount, refines.appCount⟩

theorem createApp (now : Instant) (app : NewApp) :
    (store.createApp now app).1 = (tables.createApp now app).1 ∧
      (store.createApp now app).2.Refines (tables.createApp now app).2 := by
  have taken := any_keyOf_iff refines.apps.lists refines.sound.apps refines.sound.names app.name
  have sound := refines.sound.createApp now app
  unfold CredentialStore.createApp at sound ⊢
  unfold Tables.createApp
  by_cases held : store.appNames.contains app.name = true
  · rw [if_pos held, if_pos (taken.mpr held)]
    exact ⟨rfl, refines⟩
  · rw [if_neg held] at sound ⊢
    rw [if_neg (mt taken.mp held), refines.appCount]
    exact ⟨rfl, sound, refines.users, refines.apps.append refines.sound.appIds rfl, refines.grants,
      refines.userCount, rfl⟩

theorem updateApp (id : AppId) (update : AppUpdate) :
    (store.updateApp id update).1 = (tables.updateApp id update).1 ∧
      (store.updateApp id update).2.Refines (tables.updateApp id update).2 := by
  have sound := refines.sound.updateApp id update
  unfold CredentialStore.updateApp at sound ⊢
  unfold Tables.updateApp
  rw [refines.app?_eq]
  cases stored : store.apps[id]? with
  | none => exact ⟨rfl, refines⟩
  | some current =>
    have shown : current.id = id := refines.sound.apps id current stored
    have taken := any_other_iff refines.apps.lists refines.sound.apps refines.sound.names stored update.name
    -- Here, too, the record and the row have the same fields.
    have rows := refines.apps.replace refines.sound.apps stored (fun _ => update.applyTo current)
      fun _ _ => shown
    simp only [stored] at sound ⊢
    by_cases same : (update.applyTo current).name = current.name
    · rw [if_pos same] at sound ⊢
      rw [if_neg fun held => (taken.mp held).1 same]
      exact ⟨rfl, sound, refines.users, rows, refines.grants, refines.userCount, refines.appCount⟩
    · rw [if_neg same] at sound ⊢
      by_cases held : store.appNames.contains (update.applyTo current).name = true
      · rw [if_pos held, if_pos (taken.mpr ⟨same, held⟩)]
        exact ⟨rfl, refines⟩
      · rw [if_neg held] at sound ⊢
        rw [if_neg fun any => held (taken.mp any).2]
        exact ⟨rfl, sound, refines.users, rows, refines.grants, refines.userCount, refines.appCount⟩

theorem deleteApp (id : AppId) :
    (store.deleteApp id).1 = (tables.deleteApp id).1 ∧
      (store.deleteApp id).2.Refines (tables.deleteApp id).2 := by
  have sound := refines.sound.deleteApp id
  unfold CredentialStore.deleteApp at sound ⊢
  unfold Tables.deleteApp
  rw [refines.app?_eq]
  cases stored : store.apps[id]? with
  | none => exact ⟨rfl, refines⟩
  | some app =>
    simp only [stored] at sound ⊢
    exact ⟨rfl, sound, refines.users, refines.apps.erase id,
      refines.lookup_grants_remove Grant.appId id, refines.userCount, refines.appCount⟩

theorem setAppEnabled (id : AppId) (enabled : Bool) :
    (store.setAppEnabled id enabled).1 = (tables.setAppEnabled id enabled).1 ∧
      (store.setAppEnabled id enabled).2.Refines (tables.setAppEnabled id enabled).2 := by
  have sound := refines.sound.setAppEnabled id enabled
  unfold CredentialStore.setAppEnabled at sound ⊢
  unfold Tables.setAppEnabled
  rw [refines.app?_eq]
  cases stored : store.apps[id]? with
  | none =>
    have unchanged : (tables.apps.map fun app =>
        if app.id = id then { app with enabled := enabled } else app) = tables.apps := by
      refine (List.map_congr_left fun app listed => if_neg ?_).trans (List.map_id tables.apps)
      rintro rfl
      exact absurd (stored.symm.trans ((refines.apps.lists app).mp listed)) nofun
    rw [unchanged]
    exact ⟨rfl, refines⟩
  | some app =>
    have rows := refines.apps.replace refines.sound.apps stored
      (fun app => { app with enabled := enabled }) fun _ same => same
    simp only [stored] at sound ⊢
    exact ⟨rfl, sound, refines.users, rows, refines.grants, refines.userCount, refines.appCount⟩

theorem lookup_grants_erase (grant other : Grant) :
    (tables.grants.filter fun row => row.1 ≠ grant).lookup other =
      if grant = other then none else store.grants[other]? := by
  have kept := lookup_filter (fun key => decide (key ≠ grant)) other tables.grants
  rw [kept, refines.grants]
  by_cases same : grant = other
  · rw [if_pos same, if_neg fun (different : decide (other ≠ grant) = true) =>
      of_decide_eq_true different same.symm]
  · rw [if_neg same, if_pos (decide_eq_true (Ne.symm same))]

theorem setAdmin (userId : UserId) (appId : AppId) (isAdmin : Bool) :
    (store.setAdmin userId appId isAdmin).Refines (tables.setAdmin ⟨userId, appId⟩ isAdmin) := by
  have sound := refines.sound.answer ⟨0⟩ (.setAdmin userId appId isAdmin)
  refine ⟨sound, refines.users, refines.apps, fun grant => ?_, refines.userCount, refines.appCount⟩
  change List.lookup grant (_ :: _) = (store.grants.insert _ isAdmin)[grant]?
  rw [Table.getElem?_insert, List.lookup_cons, refines.lookup_grants_erase]
  by_cases same : (⟨userId, appId⟩ : Grant) = grant
  · subst same
    rw [if_pos rfl, if_pos rfl, beq_self_eq_true]
  · rw [if_neg same, if_neg same, beq_eq_false_iff_ne.mpr (Ne.symm same)]

theorem removeAdmin (userId : UserId) (appId : AppId) :
    (store.removeAdmin userId appId).1 = (tables.removeAdmin ⟨userId, appId⟩).1 ∧
      (store.removeAdmin userId appId).2.Refines (tables.removeAdmin ⟨userId, appId⟩).2 := by
  have sound := refines.sound.answer ⟨0⟩ (.removeAdmin userId appId)
  refine ⟨?_, sound, refines.users, refines.apps, fun grant => ?_, refines.userCount, refines.appCount⟩
  · change store.grants.contains ⟨userId, appId⟩ = (tables.grants.lookup ⟨userId, appId⟩).isSome
    rw [Std.ExtTreeMap.contains_eq_isSome_getElem?, refines.grants]
  · change List.lookup grant (tables.grants.filter _) = (store.grants.erase _)[grant]?
    rw [Table.getElem?_erase, refines.lookup_grants_erase]

/-- Each call has the same answer from both sides, and they stay related. -/
theorem answer (now : Instant) (call : CredentialCall) :
    (store.answer now call).1 = (tables.answer now call).1 ∧
      (store.answer now call).2.Refines (tables.answer now call).2 := by
  cases call with
  | findUserByEmail email => exact ⟨congrArg Except.ok (refines.findUserByEmail_eq email).symm, refines⟩
  | findUserById id => exact ⟨congrArg Except.ok (refines.user?_eq id).symm, refines⟩
  | listUsers => exact ⟨congrArg Except.ok refines.listUsers_eq, refines⟩
  | createUser user => exact refines.createUser now user
  | updateUser id update => exact refines.updateUser id update
  | deleteUser id => exact (refines.deleteUser id).imp_left (congrArg Except.ok)
  | findAppById id => exact ⟨congrArg Except.ok (refines.app?_eq id).symm, refines⟩
  | listApps => exact ⟨congrArg Except.ok refines.listApps_eq, refines⟩
  | createApp app => exact refines.createApp now app
  | updateApp id update => exact refines.updateApp id update
  | deleteApp id => exact (refines.deleteApp id).imp_left (congrArg Except.ok)
  | setAppEnabled id enabled => exact (refines.setAppEnabled id enabled).imp_left (congrArg Except.ok)
  | isAdmin userId appId => exact ⟨congrArg Except.ok (refines.isAdmin_eq userId appId).symm, refines⟩
  | setAdmin userId appId isAdmin => exact ⟨rfl, refines.setAdmin userId appId isAdmin⟩
  | removeAdmin userId appId => exact (refines.removeAdmin userId appId).imp_left (congrArg Except.ok)
  | listUsersForApp appId => exact ⟨congrArg Except.ok (refines.listUsersForApp_eq appId), refines⟩
  | ping => exact ⟨rfl, refines⟩

end CredentialStore.Refines

/-! ## Runs -/

/-- A call with its answer. -/
abbrev Exchange := (call : CredentialCall) × Except Error call.Reply

namespace Exchange

/-- Whether a user was created. -/
def createsUser : Exchange -> Bool
  | ⟨.createUser _, .ok _⟩ => true
  | _ => false

/-- Whether an app was created. -/
def createsApp : Exchange -> Bool
  | ⟨.createApp _, .ok _⟩ => true
  | _ => false

end Exchange

/-- Calls at given instants, one after the other: their answers, and what holds the records then. -/
def exchanges {Store : Type}
    (answer : Store -> Instant -> (call : CredentialCall) -> Except Error call.Reply × Store) :
    Store -> List (Instant × CredentialCall) -> List Exchange × Store
  | store, [] => ([], store)
  | store, (now, call) :: calls =>
    let (reply, after) := answer store now call
    let (later, final) := exchanges answer after calls
    (⟨call, reply⟩ :: later, final)

/-- A run from related sides has the same answers and ends with related sides. -/
theorem CredentialStore.Refines.exchanges_eq {store : CredentialStore} {tables : Tables}
    (refines : store.Refines tables) (calls : List (Instant × CredentialCall)) :
    (exchanges CredentialStore.answer store calls).1 = (exchanges Tables.answer tables calls).1 ∧
      (exchanges CredentialStore.answer store calls).2.Refines (exchanges Tables.answer tables calls).2 := by
  induction calls generalizing store tables with
  | nil => exact ⟨rfl, refines⟩
  | cons first calls hypothesis =>
    rcases first with ⟨now, call⟩
    rcases refines.answer now call with ⟨same, after⟩
    rcases hypothesis after with ⟨rest, final⟩
    exact ⟨congrArg₂ (fun reply later => (⟨call, reply⟩ : Exchange) :: later) same rest, final⟩

/-- The counts of creations count answers. -/
theorem Tables.counts_answer (tables : Tables) (now : Instant) (call : CredentialCall) :
    (tables.answer now call).2.userCount =
        tables.userCount + (Exchange.createsUser ⟨call, (tables.answer now call).1⟩).toNat ∧
      (tables.answer now call).2.appCount =
        tables.appCount + (Exchange.createsApp ⟨call, (tables.answer now call).1⟩).toNat := by
  cases call with
  | createUser user =>
    simp only [Tables.answer, Tables.createUser]
    split
    · exact ⟨rfl, rfl⟩
    · exact ⟨rfl, rfl⟩
  | createApp app =>
    simp only [Tables.answer, Tables.createApp]
    split
    · exact ⟨rfl, rfl⟩
    · exact ⟨rfl, rfl⟩
  | updateUser id update =>
    simp only [Tables.answer, Tables.updateUser]
    split
    · exact ⟨rfl, rfl⟩
    · split
      · exact ⟨rfl, rfl⟩
      · exact ⟨rfl, rfl⟩
  | updateApp id update =>
    simp only [Tables.answer, Tables.updateApp]
    split
    · exact ⟨rfl, rfl⟩
    · split
      · exact ⟨rfl, rfl⟩
      · exact ⟨rfl, rfl⟩
  | deleteUser id =>
    simp only [Tables.answer, Tables.deleteUser]
    split
    · exact ⟨rfl, rfl⟩
    · exact ⟨rfl, rfl⟩
  | deleteApp id =>
    simp only [Tables.answer, Tables.deleteApp]
    split
    · exact ⟨rfl, rfl⟩
    · exact ⟨rfl, rfl⟩
  | _ => exact ⟨rfl, rfl⟩

theorem Tables.counts_exchanges (tables : Tables) (calls : List (Instant × CredentialCall)) :
    (exchanges Tables.answer tables calls).2.userCount = tables.userCount +
        (exchanges Tables.answer tables calls).1.countP Exchange.createsUser ∧
      (exchanges Tables.answer tables calls).2.appCount = tables.appCount +
        (exchanges Tables.answer tables calls).1.countP Exchange.createsApp := by
  induction calls generalizing tables with
  | nil => exact ⟨rfl, rfl⟩
  | cons first calls hypothesis =>
    rcases first with ⟨now, call⟩
    rcases tables.counts_answer now call with ⟨users, apps⟩
    rcases hypothesis (tables.answer now call).2 with ⟨laterUsers, laterApps⟩
    simp only [exchanges, List.countP_cons, laterUsers, laterApps, users, apps]
    constructor
    · cases Exchange.createsUser ⟨call, (tables.answer now call).1⟩ with
      | false => rfl
      | true => exact Nat.add_right_comm _ 1 _
    · cases Exchange.createsApp ⟨call, (tables.answer now call).1⟩ with
      | false => rfl
      | true => exact Nat.add_right_comm _ 1 _

/-- Whatever calls are made of an empty store, each has the answer that plain
tables give.  The rows of the tables are by increasing id, so the lists are as
well, and an id is one more than the creations before it.  A call that is
answered with an error leaves the store as it was. -/
theorem exchanges_eq_of_tables (calls : List (Instant × CredentialCall)) :
    let stored := exchanges CredentialStore.answer .empty calls
    let listed := exchanges Tables.answer .empty calls
    stored.1 = listed.1 ∧
      listed.2.users.Pairwise (fun before after => before.id < after.id) ∧
      listed.2.apps.Pairwise (fun before after => before.id < after.id) ∧
      listed.2.userCount = listed.1.countP Exchange.createsUser ∧
      listed.2.appCount = listed.1.countP Exchange.createsApp ∧
      forall now call error, (stored.2.answer now call).1 = .error error ->
        (stored.2.answer now call).2 = stored.2 := by
  intro stored listed
  rcases CredentialStore.Refines.empty.exchanges_eq calls with ⟨same, refines⟩
  rcases Tables.empty.counts_exchanges calls with ⟨users, apps⟩
  refine ⟨same, refines.users.increasing, refines.apps.increasing, ?_, ?_, ?_⟩
  · exact users.trans (Nat.zero_add _)
  · exact apps.trans (Nat.zero_add _)
  · intro now call error failed
    exact CredentialStore.answer_of_error (Prod.ext failed rfl)

end SingleSignOn

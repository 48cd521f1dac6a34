import SingleSignOn.Store.Mishap

namespace SingleSignOn

/-!
# Stores without their secrets

Password hashes, the secrets of apps, and what a database says of its failures
are nobody's business.  With these blotted out, two states or two answers are
the same if nobody may tell them apart.  No store call looks at a secret, so a
call on states that are the same but for secrets has the same answer but for
secrets, and so are the states after it.
-/

/-! ## Records -/

/-- The user without the password hash. -/
def User.redacted (user : User) : User :=
  { user with passwordHash := "" }

/-- The app without the secret. -/
def App.redacted (app : App) : App :=
  { app with secret := "" }

theorem User.redacted_redacted (user : User) : user.redacted.redacted = user.redacted :=
  rfl

theorem App.redacted_redacted (app : App) : app.redacted.redacted = app.redacted :=
  rfl

/-- The user of an app without the password hash. -/
def AppUser.redacted (member : AppUser) : AppUser :=
  { member with user := member.user.redacted }

/-- The error without what the database said. -/
def Error.redacted : Error -> Error
  | database _ => database .noRow
  | error => error

/-- The store without password hashes and secrets. -/
def CredentialStore.redacted (store : CredentialStore) : CredentialStore :=
  { store with
    users := store.users.map fun _ => User.redacted
    apps := store.apps.map fun _ => App.redacted }

/-- The stores without password hashes and secrets. -/
def Stores.redacted (stores : Stores) : Stores :=
  { stores with credentials := stores.credentials.redacted }

/-- The world without password hashes and secrets. -/
def World.redacted (world : World) : World :=
  { world with stores := world.stores.redacted }

/-! ## Answers -/

/-- The reply to a call without password hashes and secrets. -/
def CredentialCall.redact : (call : CredentialCall) -> call.Reply -> call.Reply
  | .findUserByEmail _, found => Option.map User.redacted found
  | .findUserById _, found => Option.map User.redacted found
  | .listUsers, users => List.map User.redacted users
  | .createUser _, user => User.redacted user
  | .updateUser _ _, found => Option.map User.redacted found
  | .findAppById _, found => Option.map App.redacted found
  | .listApps, apps => List.map App.redacted apps
  | .createApp _, app => App.redacted app
  | .updateApp _ _, found => Option.map App.redacted found
  | .listUsersForApp _, members => List.map AppUser.redacted members
  | .deleteUser _, reply => reply
  | .deleteApp _, reply => reply
  | .setAppEnabled _ _, reply => reply
  | .isAdmin _ _, reply => reply
  | .setAdmin _ _ _, reply => reply
  | .removeAdmin _ _, reply => reply
  | .ping, reply => reply

/-- The reply to a call without password hashes and secrets. -/
def StoreCall.redact : (call : StoreCall) -> call.Reply -> call.Reply
  | .credentials call, reply => call.redact reply
  | .tokens _, reply => reply

/-- What remains of a result, and an error without what the database said. -/
def redactResult {α β : Type} (redact : α -> β) : Except Error α -> Except Error β
  | .ok value => .ok (redact value)
  | .error error => .error error.redacted

/-! ## Tables -/

namespace Table

variable {Key Value : Type} [Ord Key] {change : Value -> Value} (table : Table Key Value)

/-- A change that comes to the same when made twice. -/
theorem map_map_of_idempotent (twice : forall value, change (change value) = change value) :
    (table.map fun _ => change).map (fun _ => change) = table.map fun _ => change := by
  rw [Std.ExtTreeMap.map_map]
  simp only [twice]

variable [Std.TransOrd Key] [Std.LawfulEqOrd Key]

theorem map_insert (key : Key) (value : Value) :
    (table.insert key value).map (fun _ => change) = (table.map fun _ => change).insert key (change value) := by
  apply Std.ExtTreeMap.ext_getElem?
  intro other
  simp only [Std.ExtTreeMap.getElem?_map, Std.ExtTreeMap.getElem?_insert]
  split <;> rfl

theorem map_erase (key : Key) :
    (table.erase key).map (fun _ => change) = (table.map fun _ => change).erase key := by
  apply Std.ExtTreeMap.ext_getElem?
  intro other
  simp only [Std.ExtTreeMap.getElem?_map, Std.ExtTreeMap.getElem?_erase]
  split <;> rfl

/-- A row that is written to a changed table, as far as the change shows it. -/
theorem map_insert_map (twice : forall value, change (change value) = change value) (key : Key) {value other : Value}
    (same : change value = change other) :
    ((table.map fun _ => change).insert key value).map (fun _ => change) =
      (table.insert key other).map fun _ => change := by
  rw [map_insert, map_insert, table.map_map_of_idempotent twice, same]

theorem map_erase_map (twice : forall value, change (change value) = change value) (key : Key) :
    ((table.map fun _ => change).erase key).map (fun _ => change) = (table.erase key).map fun _ => change := by
  rw [map_erase, map_erase, table.map_map_of_idempotent twice]

end Table

/-! ## Calls to the store of users, apps and grants -/

namespace CredentialStore

/-- Stores are the same but for secrets if their users and apps are, and the rest is the same. -/
theorem redacted_congr {first second : CredentialStore}
    (users : first.users.map (fun _ => User.redacted) = second.users.map fun _ => User.redacted)
    (apps : first.apps.map (fun _ => App.redacted) = second.apps.map fun _ => App.redacted)
    (emails : first.emails = second.emails) (appNames : first.appNames = second.appNames)
    (grants : first.grants = second.grants) (userCount : first.userCount = second.userCount)
    (appCount : first.appCount = second.appCount) : first.redacted = second.redacted := by
  unfold redacted
  rw [users, apps, emails, appNames, grants, userCount, appCount]

variable (store : CredentialStore)

theorem map_users_redacted :
    store.redacted.users.map (fun _ => User.redacted) = store.users.map fun _ => User.redacted :=
  store.users.map_map_of_idempotent User.redacted_redacted

theorem map_apps_redacted :
    store.redacted.apps.map (fun _ => App.redacted) = store.apps.map fun _ => App.redacted :=
  store.apps.map_map_of_idempotent App.redacted_redacted

theorem redacted_redacted : store.redacted.redacted = store.redacted :=
  redacted_congr store.map_users_redacted store.map_apps_redacted rfl rfl rfl rfl rfl

theorem getElem?_users_redacted (id : UserId) : store.redacted.users[id]? = store.users[id]?.map User.redacted :=
  Std.ExtTreeMap.getElem?_map

theorem getElem?_apps_redacted (id : AppId) : store.redacted.apps[id]? = store.apps[id]?.map App.redacted :=
  Std.ExtTreeMap.getElem?_map

/-- An answer to a call and the store after it, both without secrets. -/
def redactAnswer (call : CredentialCall) (answered : Except Error call.Reply × CredentialStore) :
    Except Error call.Reply × CredentialStore :=
  (redactResult call.redact answered.1, answered.2.redacted)

theorem createUser_redacted (now : Instant) (user : NewUser) :
    redactAnswer (.createUser user) (store.redacted.createUser now user) =
      redactAnswer (.createUser user) (store.createUser now user) := by
  unfold createUser
  by_cases taken : store.emails.contains user.email = true
  · have takenToo : store.redacted.emails.contains user.email = true := taken
    rw [if_pos taken, if_pos takenToo]
    exact congrArg (Prod.mk _) store.redacted_redacted
  · have freeToo : ¬store.redacted.emails.contains user.email = true := taken
    rw [if_neg taken, if_neg freeToo]
    refine congrArg (Prod.mk _) (redacted_congr ?_ store.map_apps_redacted rfl rfl rfl rfl rfl)
    exact store.users.map_insert_map User.redacted_redacted _ rfl

theorem updateUser_redacted (id : UserId) (update : UserUpdate) :
    redactAnswer (.updateUser id update) (store.redacted.updateUser id update) =
      redactAnswer (.updateUser id update) (store.updateUser id update) := by
  unfold updateUser
  rw [getElem?_users_redacted]
  cases store.users[id]? with
  | none => exact congrArg (Prod.mk _) store.redacted_redacted
  | some current =>
    let updated := update.applyTo current
    have same : (update.applyTo current.redacted).redacted = updated.redacted := rfl
    have written := store.users.map_insert_map User.redacted_redacted id same
    dsimp only [Option.map]
    by_cases kept : updated.email = current.email
    · have keptToo : (update.applyTo current.redacted).email = current.redacted.email := kept
      rw [if_pos kept, if_pos keptToo]
      exact congrArg (Prod.mk _) (redacted_congr written store.map_apps_redacted rfl rfl rfl rfl rfl)
    · have movedToo : ¬(update.applyTo current.redacted).email = current.redacted.email := kept
      rw [if_neg kept, if_neg movedToo]
      by_cases taken : store.emails.contains updated.email = true
      · have takenToo : store.redacted.emails.contains (update.applyTo current.redacted).email = true := taken
        rw [if_pos taken, if_pos takenToo]
        exact congrArg (Prod.mk _) store.redacted_redacted
      · have freeToo : ¬store.redacted.emails.contains (update.applyTo current.redacted).email = true := taken
        rw [if_neg taken, if_neg freeToo]
        exact congrArg (Prod.mk _) (redacted_congr written store.map_apps_redacted rfl rfl rfl rfl rfl)

theorem deleteUser_redacted (id : UserId) :
    (store.redacted.deleteUser id).1 = (store.deleteUser id).1 ∧
      (store.redacted.deleteUser id).2.redacted = (store.deleteUser id).2.redacted := by
  unfold deleteUser
  rw [getElem?_users_redacted]
  cases store.users[id]? with
  | none => exact ⟨rfl, store.redacted_redacted⟩
  | some user =>
    exact ⟨rfl, redacted_congr (store.users.map_erase_map User.redacted_redacted id) store.map_apps_redacted
      rfl rfl rfl rfl rfl⟩

theorem createApp_redacted (now : Instant) (app : NewApp) :
    redactAnswer (.createApp app) (store.redacted.createApp now app) =
      redactAnswer (.createApp app) (store.createApp now app) := by
  unfold createApp
  by_cases taken : store.appNames.contains app.name = true
  · have takenToo : store.redacted.appNames.contains app.name = true := taken
    rw [if_pos taken, if_pos takenToo]
    exact congrArg (Prod.mk _) store.redacted_redacted
  · have freeToo : ¬store.redacted.appNames.contains app.name = true := taken
    rw [if_neg taken, if_neg freeToo]
    refine congrArg (Prod.mk _) (redacted_congr store.map_users_redacted ?_ rfl rfl rfl rfl rfl)
    exact store.apps.map_insert_map App.redacted_redacted _ rfl

theorem updateApp_redacted (id : AppId) (update : AppUpdate) :
    redactAnswer (.updateApp id update) (store.redacted.updateApp id update) =
      redactAnswer (.updateApp id update) (store.updateApp id update) := by
  unfold updateApp
  rw [getElem?_apps_redacted]
  cases store.apps[id]? with
  | none => exact congrArg (Prod.mk _) store.redacted_redacted
  | some current =>
    let updated := update.applyTo current
    have same : (update.applyTo current.redacted).redacted = updated.redacted := rfl
    have written := store.apps.map_insert_map App.redacted_redacted id same
    dsimp only [Option.map]
    by_cases kept : updated.name = current.name
    · have keptToo : (update.applyTo current.redacted).name = current.redacted.name := kept
      rw [if_pos kept, if_pos keptToo]
      exact congrArg (Prod.mk _) (redacted_congr store.map_users_redacted written rfl rfl rfl rfl rfl)
    · have renamedToo : ¬(update.applyTo current.redacted).name = current.redacted.name := kept
      rw [if_neg kept, if_neg renamedToo]
      by_cases taken : store.appNames.contains updated.name = true
      · have takenToo : store.redacted.appNames.contains (update.applyTo current.redacted).name = true := taken
        rw [if_pos taken, if_pos takenToo]
        exact congrArg (Prod.mk _) store.redacted_redacted
      · have freeToo : ¬store.redacted.appNames.contains (update.applyTo current.redacted).name = true := taken
        rw [if_neg taken, if_neg freeToo]
        exact congrArg (Prod.mk _) (redacted_congr store.map_users_redacted written rfl rfl rfl rfl rfl)

theorem deleteApp_redacted (id : AppId) :
    (store.redacted.deleteApp id).1 = (store.deleteApp id).1 ∧
      (store.redacted.deleteApp id).2.redacted = (store.deleteApp id).2.redacted := by
  unfold deleteApp
  rw [getElem?_apps_redacted]
  cases store.apps[id]? with
  | none => exact ⟨rfl, store.redacted_redacted⟩
  | some app =>
    exact ⟨rfl, redacted_congr store.map_users_redacted (store.apps.map_erase_map App.redacted_redacted id)
      rfl rfl rfl rfl rfl⟩

theorem setAppEnabled_redacted (id : AppId) (enabled : Bool) :
    (store.redacted.setAppEnabled id enabled).1 = (store.setAppEnabled id enabled).1 ∧
      (store.redacted.setAppEnabled id enabled).2.redacted = (store.setAppEnabled id enabled).2.redacted := by
  unfold setAppEnabled
  rw [getElem?_apps_redacted]
  cases store.apps[id]? with
  | none => exact ⟨rfl, store.redacted_redacted⟩
  | some app =>
    exact ⟨rfl, redacted_congr store.map_users_redacted (store.apps.map_insert_map App.redacted_redacted id rfl)
      rfl rfl rfl rfl rfl⟩

theorem findUserById_redacted (id : UserId) :
    store.redacted.users[id]?.map User.redacted = store.users[id]?.map User.redacted := by
  rw [getElem?_users_redacted]
  exact Option.map_map _ _ _

theorem findUserByEmail_redacted (email : String) :
    (store.redacted.findUserByEmail email).map User.redacted = (store.findUserByEmail email).map User.redacted := by
  unfold findUserByEmail
  change Option.map _ (store.emails[email]?.bind _) = _
  cases store.emails[email]? with
  | none => rfl
  | some id => exact store.findUserById_redacted id

theorem findAppById_redacted (id : AppId) :
    store.redacted.apps[id]?.map App.redacted = store.apps[id]?.map App.redacted := by
  rw [getElem?_apps_redacted]
  exact Option.map_map _ _ _

theorem listUsers_redacted : store.redacted.listUsers.map User.redacted = store.listUsers.map User.redacted := by
  unfold listUsers redacted
  simp only [Std.ExtTreeMap.toList_map, List.map_map]
  rfl

theorem listApps_redacted : store.redacted.listApps.map App.redacted = store.listApps.map App.redacted := by
  unfold listApps redacted
  simp only [Std.ExtTreeMap.toList_map, List.map_map]
  rfl

theorem listUsersForApp_redacted (appId : AppId) :
    (store.redacted.listUsersForApp appId).map AppUser.redacted =
      (store.listUsersForApp appId).map AppUser.redacted := by
  unfold listUsersForApp
  rw [List.map_filterMap, List.map_filterMap]
  refine congrArg (List.filterMap · store.grants.toList) (funext fun entry => ?_)
  dsimp only
  split
  · rw [getElem?_users_redacted]
    cases store.users[entry.1.userId]? <;> rfl
  · rfl

/-- No call to the store of users, apps and grants looks at a secret. -/
theorem answer_redacted (now : Instant) (call : CredentialCall) :
    redactAnswer call (store.redacted.answer now call) = redactAnswer call (store.answer now call) := by
  have reads (reply other : call.Reply) (same : call.redact reply = call.redact other) :
      redactAnswer call (.ok reply, store.redacted) = redactAnswer call (.ok other, store) :=
    Prod.ext (congrArg Except.ok same) store.redacted_redacted
  cases call with
  | findUserByEmail email => exact reads _ _ (store.findUserByEmail_redacted email)
  | findUserById id => exact reads _ _ (store.findUserById_redacted id)
  | listUsers => exact reads _ _ store.listUsers_redacted
  | createUser user => exact store.createUser_redacted now user
  | updateUser id update => exact store.updateUser_redacted id update
  | deleteUser id =>
    exact Prod.ext (congrArg Except.ok (store.deleteUser_redacted id).1) (store.deleteUser_redacted id).2
  | findAppById id => exact reads _ _ (store.findAppById_redacted id)
  | listApps => exact reads _ _ store.listApps_redacted
  | createApp app => exact store.createApp_redacted now app
  | updateApp id update => exact store.updateApp_redacted id update
  | deleteApp id =>
    exact Prod.ext (congrArg Except.ok (store.deleteApp_redacted id).1) (store.deleteApp_redacted id).2
  | setAppEnabled id enabled =>
    exact Prod.ext (congrArg Except.ok (store.setAppEnabled_redacted id enabled).1)
      (store.setAppEnabled_redacted id enabled).2
  | isAdmin userId appId => exact reads _ _ rfl
  | setAdmin userId appId isAdmin =>
    exact Prod.ext rfl (redacted_congr store.map_users_redacted store.map_apps_redacted rfl rfl rfl rfl rfl)
  | removeAdmin userId appId =>
    exact Prod.ext rfl (redacted_congr store.map_users_redacted store.map_apps_redacted rfl rfl rfl rfl rfl)
  | listUsersForApp appId => exact reads _ _ (store.listUsersForApp_redacted appId)
  | ping => exact reads _ _ rfl

end CredentialStore

/-! ## Calls with mishaps -/

/-- The fault without what the database says. -/
def Fault.redacted : Fault -> Fault
  | refusal error => refusal error.redacted
  | fault => fault

/-- The end of a call without what the database says. -/
def Ending.redacted : Ending -> Ending
  | refused error => refused error.redacted
  | ending => ending

/-- What the database says of a failure makes no difference to the course of the call. -/
theorem Course.under_redacted (patience : Option Nat) (fault : Option Fault) :
    (under patience (fault.map Fault.redacted)).ending = (under patience fault).ending.redacted := by
  rcases fault with _ | error | _ | milliseconds | _
  · rfl
  · rfl
  · rfl
  · cases patience with
    | none => rfl
    | some limit =>
      change Course.ending (if limit < milliseconds then _ else _) =
        (Course.ending (if limit < milliseconds then _ else _)).redacted
      split <;> rfl
  · rfl

theorem Error.redacted_redacted (error : Error) : error.redacted.redacted = error.redacted := by
  cases error <;> rfl

namespace World

/-- An answer to a call and the world after it, both without secrets. -/
def redactAnswer (request : StoreCall) (answered : Except Error request.Reply × World) :
    Except Error request.Reply × World :=
  (redactResult request.redact answered.1, answered.2.redacted)

theorem redacted_redacted (world : World) : world.redacted.redacted = world.redacted :=
  congrArg (fun credentials => { world with stores := { world.stores with credentials := credentials } })
    world.stores.credentials.redacted_redacted

/-- No store call looks at a secret. -/
theorem answer_redacted (world : World) (request : StoreCall) :
    redactAnswer request (world.redacted.answer request) = redactAnswer request (world.answer request) := by
  cases request with
  | credentials call =>
    have answered := world.stores.credentials.answer_redacted world.now call
    have reply := congrArg Prod.fst answered
    have after := congrArg Prod.snd answered
    exact Prod.ext reply
      (congrArg (fun credentials => { world with stores := { world.stores with credentials := credentials } }) after)
  | tokens call =>
    exact Prod.ext rfl (congrArg (fun credentials : CredentialStore => { (world.answer (.tokens call)).2 with
      stores := { (world.answer (.tokens call)).2.stores with credentials := credentials } })
        world.stores.credentials.redacted_redacted)

/-- The end of a call and the world after it, both without secrets. -/
def redactEnd (request : StoreCall) (ended : Option (Except Error request.Reply) × World) :
    Option (Except Error request.Reply) × World :=
  (ended.1.map (redactResult request.redact), ended.2.redacted)

/-- Nothing is secret about a count. -/
theorem redactResult_miscounted (request : StoreCall) (reply : Except Error request.Reply) :
    redactResult request.redact (reply.map (miscounted request)) =
      (redactResult request.redact reply).map (miscounted request) := by
  rcases reply with error | reply
  · rfl
  · rcases request with call | call
    · rfl
    · cases call <;> rfl

theorem endCall_redacted (world : World) (request : StoreCall) (ending : Ending) :
    redactEnd request (world.redacted.endCall request ending.redacted) =
      redactEnd request (world.endCall request ending) := by
  cases ending with
  | refused error =>
    exact Prod.ext (congrArg (fun error => some (Except.error error)) error.redacted_redacted) world.redacted_redacted
  | givenUp => exact Prod.ext rfl world.redacted_redacted
  | carriedOut =>
    have reply := congrArg Prod.fst (world.answer_redacted request)
    have after := congrArg Prod.snd (world.answer_redacted request)
    exact Prod.ext (congrArg some reply) after
  | miscounted =>
    have reply := congrArg Prod.fst (world.answer_redacted request)
    have after := congrArg Prod.snd (world.answer_redacted request)
    have counted := congrArg (Except.map (miscounted request)) reply
    refine Prod.ext (congrArg some ?_) after
    exact (redactResult_miscounted request _).trans (counted.trans (redactResult_miscounted request _).symm)

/-- Calls on worlds that are the same but for secrets, with the same end but for
what the database says, have the same answer but for secrets. -/
theorem endCall_alike {world other : World} (worlds : world.redacted = other.redacted) (request : StoreCall)
    {ending further : Ending} (endings : ending.redacted = further.redacted) :
    redactEnd request (world.endCall request ending) = redactEnd request (other.endCall request further) := by
  rw [← endCall_redacted world, ← endCall_redacted other, worlds, endings]

end World

end SingleSignOn

import SingleSignOn.Store.Credentials

namespace SingleSignOn

/-!
# Changes to apps, access by access

The store in memory consists of maps that are locked one at a time.  A call
that changes an app is a sequence of accesses to these maps, and other calls
may come between two of them.  What a call has read in the meantime is a copy
of its own.

Seen this way, an update writes back the copy that it read at its beginning.
-/

/-- One access to one of the maps. -/
inductive AppAccess where
  /-- Copies the record of an app. -/
  | copy (id : AppId)
  /-- Takes a name for an app if it is free, and tells whether it was. -/
  | claimName (name : String) (id : AppId)
  /-- Gives a name back. -/
  | freeName (name : String)
  /-- Writes a record under the id of an app. -/
  | write (id : AppId) (app : App)
  /-- Sets the status in the record of an app, and tells whether there is one. -/
  | setStatus (id : AppId) (enabled : Bool)
  /-- Removes the record of an app, and returns it. -/
  | remove (id : AppId)
  /-- Removes the grants for an app. -/
  | removeGrants (id : AppId)
  deriving DecidableEq, Repr

/-- What an access returns. -/
abbrev AppAccess.Reply : AppAccess -> Type
  | copy _ => Option App
  | claimName _ _ => Bool
  | freeName _ => Unit
  | write _ _ => Unit
  | setStatus _ _ => Bool
  | remove _ => Option App
  | removeGrants _ => Unit

/-- A call as a sequence of accesses. -/
inductive AccessPath (α : Type) : Type where
  | done (result : α)
  | access (step : AppAccess) (next : step.Reply -> AccessPath α)

namespace CredentialStore

/-- Carries an access out. -/
def access (store : CredentialStore) : (step : AppAccess) -> step.Reply × CredentialStore
  | .copy id => (store.apps[id]?, store)
  | .claimName name id =>
    if store.appNames.contains name then (false, store)
    else (true, { store with appNames := store.appNames.insert name id })
  | .freeName name => ((), { store with appNames := store.appNames.erase name })
  | .write id app => ((), { store with apps := store.apps.insert id app })
  | .setStatus id enabled => store.setAppEnabled id enabled
  | .remove id => (store.apps[id]?, { store with apps := store.apps.erase id })
  | .removeGrants id => ((), { store with grants := store.grants.filter fun grant _ => grant.appId != id })

end CredentialStore

/-- A change to an app. -/
inductive AppChange where
  | update (update : AppUpdate)
  | setStatus (enabled : Bool)
  | delete
  deriving DecidableEq, Repr

/-- What a change to an app returns. -/
inductive AppChange.Outcome where
  /-- The app after an update, if there is one. -/
  | updated (app : Option App)
  /-- Another app has the new name. -/
  | nameTaken
  /-- Whether there was an app to change. -/
  | found (existed : Bool)
  deriving DecidableEq, Repr

namespace AppChange

/-- The accesses of a change. -/
def path (id : AppId) : AppChange -> AccessPath Outcome
  | update change =>
    .access (.copy id) fun
      | none => .done (.updated none)
      | some current =>
        let updated := change.applyTo current
        let write := AccessPath.access (.write id updated) fun _ => .done (.updated (some updated))
        if updated.name = current.name then write
        else .access (.claimName updated.name id) fun
          | false => .done .nameTaken
          | true => .access (.freeName current.name) fun _ => write
  | setStatus enabled => .access (.setStatus id enabled) fun existed => .done (.found existed)
  | delete =>
    .access (.remove id) fun
      | none => .done (.found false)
      | some app =>
        .access (.freeName app.name) fun _ =>
          .access (.removeGrants id) fun _ => .done (.found true)

end AppChange

/-- Changes under way, by their numbers, over one store. -/
structure AppChanges where
  store : CredentialStore
  paths : List (AccessPath AppChange.Outcome)

namespace AppChanges

/-- One access of the change of a number. -/
def step (changes : AppChanges) (number : Nat) : AppChanges :=
  match changes.paths[number]? with
  | some (.access step next) =>
    let (reply, store) := changes.store.access step
    ⟨store, changes.paths.set number (next reply)⟩
  | _ => changes

/-- The changes after accesses in a given order. -/
def run (changes : AppChanges) (numbers : List Nat) : AppChanges :=
  numbers.foldl step changes

end AppChanges

end SingleSignOn

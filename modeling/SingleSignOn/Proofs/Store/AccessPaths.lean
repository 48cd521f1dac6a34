import SingleSignOn.Store.Access

namespace SingleSignOn

/-!
# Changes to an app as paths

A change to an app that nothing comes between is the call that it stands for.
A change has taken effect with its first access, or has a copy of the record
from then on: what a deletion still does is about the name and the grants of
an app that is no longer there.
-/

/-! ## Changes as whole calls -/

namespace AppChange

/-- What a change finds where there is no app. -/
def inVain : AppChange -> Outcome
  | update _ => .updated none
  | setStatus _ => .found false
  | delete => .found false

/-- A change as one call of the store. -/
def perform (id : AppId) (change : AppChange) (store : CredentialStore) : Outcome × CredentialStore :=
  match change with
  | update change =>
    match store.updateApp id change with
    | (.ok app, after) => (.updated app, after)
    | (.error _, after) => (.nameTaken, after)
  | setStatus enabled => let (existed, after) := store.setAppEnabled id enabled; (.found existed, after)
  | delete => let (existed, after) := store.deleteApp id; (.found existed, after)

/-- Changes one after another, with the outcome of each. -/
def performAll (id : AppId) (store : CredentialStore) : List AppChange -> List Outcome × CredentialStore
  | [] => ([], store)
  | change :: later =>
    let (outcome, after) := change.perform id store
    let (outcomes, final) := performAll id after later
    (outcome :: outcomes, final)

/-- Changes with given outcomes have come to a store as if made one after another, in some order. -/
def IsSerial (id : AppId) (start : CredentialStore) (changes : List AppChange) (outcomes : List Outcome)
    (final : CredentialStore) : Prop :=
  ∃ history : List (AppChange × Outcome), history.Perm (changes.zip outcomes) ∧
    performAll id start (history.map Prod.fst) = (history.map Prod.snd, final)

variable {id : AppId} {store : CredentialStore}

theorem perform_of_absent (absent : store.apps[id]? = none) (change : AppChange) :
    change.perform id store = (change.inVain, store) := by
  cases change with
  | update change => simp only [perform, CredentialStore.updateApp, absent, inVain]
  | setStatus enabled => simp only [perform, CredentialStore.setAppEnabled, absent, inVain]
  | delete => simp only [perform, CredentialStore.deleteApp, absent, inVain]

theorem performAll_concat (changes : List AppChange) (last : AppChange) (start : CredentialStore) :
    performAll id start (changes ++ [last]) =
      ((performAll id start changes).1 ++ [(last.perform id (performAll id start changes).2).1],
        (last.perform id (performAll id start changes).2).2) := by
  induction changes generalizing start with
  | nil => rfl
  | cons change changes hypothesis =>
    simp only [List.cons_append, performAll, hypothesis]

end AppChange

/-! ## Paths -/

namespace AccessPath

variable {α : Type}

/-- Goes a path to its end, with nothing else going on. -/
def finish : AccessPath α -> CredentialStore -> α × CredentialStore
  | done result, store => (result, store)
  | access step next, store => (next (store.access step).1).finish (store.access step).2

/-- All accesses of a path are of a kind. -/
def MakesOnly (kind : AppAccess -> Prop) : AccessPath α -> Prop
  | done _ => True
  | access step next => kind step ∧ forall reply, (next reply).MakesOnly kind

end AccessPath

namespace AppAccess

/-- What a deletion does once the record is gone. -/
def IsCleanup : AppAccess -> Prop
  | freeName _ => True
  | removeGrants _ => True
  | _ => False

def isCopy : AppAccess -> Bool
  | copy _ => true
  | _ => false

theorem IsCleanup.apps_access {step : AppAccess} (cleans : step.IsCleanup) (store : CredentialStore) :
    (store.access step).2.apps = store.apps := by
  cases step with
  | freeName name => rfl
  | removeGrants id => rfl
  | _ => exact cleans.elim

end AppAccess

theorem AccessPath.MakesOnly.apps_finish {α : Type} {path : AccessPath α}
    (cleans : path.MakesOnly AppAccess.IsCleanup) (store : CredentialStore) :
    (path.finish store).2.apps = store.apps := by
  induction path generalizing store with
  | done result => rfl
  | access step next hypothesis => exact (hypothesis _ (cleans.2 _) _).trans (cleans.1.apps_access store)

namespace AppChange

variable {id : AppId}

/-- Removing an app that there is not changes nothing. -/
theorem access_remove_of_absent {store : CredentialStore} (absent : store.apps[id]? = none) :
    store.access (.remove id) = (none, store) := by
  have same : store.apps.erase id = store.apps := by
    refine Std.ExtTreeMap.ext_getElem? fun other => ?_
    rw [Std.ExtTreeMap.getElem?_erase]
    split
    · next equal =>
      cases Std.LawfulEqCmp.compare_eq_iff_eq.mp equal
      exact absent.symm
    · rfl
  simp only [CredentialStore.access, same, absent]

/-- Every change makes an access. -/
theorem path_ne_done (change : AppChange) (outcome : Outcome) : change.path id ≠ .done outcome := by
  cases change <;> nofun

/-- A change that is not interrupted is the call that it stands for. -/
theorem finish_path (change : AppChange) (store : CredentialStore) :
    (change.path id).finish store = change.perform id store := by
  cases change with
  | update change =>
    simp only [path, AccessPath.finish, CredentialStore.access, perform, CredentialStore.updateApp]
    cases store.apps[id]? with
    | none => rfl
    | some current =>
      dsimp only
      by_cases same : (change.applyTo current).name = current.name
      · simp only [if_pos same, AccessPath.finish, CredentialStore.access]
      · by_cases taken : store.appNames.contains (change.applyTo current).name = true
        · simp only [if_neg same, if_pos taken, AccessPath.finish, CredentialStore.access]
        · simp only [if_neg same, if_neg taken, AccessPath.finish, CredentialStore.access]
  | setStatus enabled => rfl
  | delete =>
    cases stored : store.apps[id]? with
    | none =>
      simp only [path, AccessPath.finish, access_remove_of_absent stored, perform_of_absent stored, inVain]
    | some app =>
      simp only [path, AccessPath.finish, CredentialStore.access, perform, CredentialStore.deleteApp, stored]

/-- What is left of a change after its first access. -/
inductive Leftover (id : AppId) (store : CredentialStore) (change : AppChange) : AccessPath Outcome -> Prop where
  | nothing (outcome : Outcome) : Leftover id store change (.done outcome)
  /-- An update has a copy of the record. -/
  | writeBack {rest : AccessPath Outcome} (updates : ∃ update, change = .update update)
      (only : rest.MakesOnly fun step => step.isCopy = false) : Leftover id store change rest
  /-- A deletion has removed the record. -/
  | cleanup {rest : AccessPath Outcome} (gone : store.apps[id]? = none)
      (only : rest.MakesOnly AppAccess.IsCleanup) : Leftover id store change rest

variable {store : CredentialStore} {change : AppChange} {step : AppAccess}
  {next : step.Reply -> AccessPath Outcome}

theorem leftover_of_path (begins : change.path id = .access step next) (store : CredentialStore) :
    Leftover id (store.access step).2 change (next (store.access step).1) := by
  cases change with
  | update update =>
    cases begins
    refine .writeBack ⟨update, rfl⟩ ?_
    dsimp only [CredentialStore.access]
    cases store.apps[id]? with
    | none => trivial
    | some current =>
      dsimp only
      split
      · exact ⟨rfl, fun _ => trivial⟩
      · refine ⟨rfl, fun claimed => ?_⟩
        cases claimed with
        | false => trivial
        | true => exact ⟨rfl, fun _ => ⟨rfl, fun _ => trivial⟩⟩
  | setStatus enabled =>
    cases begins
    exact .nothing _
  | delete =>
    cases begins
    dsimp only [CredentialStore.access]
    cases store.apps[id]? with
    | none => exact .nothing _
    | some app =>
      refine .cleanup ?_ ⟨trivial, fun _ => ⟨trivial, fun _ => trivial⟩⟩
      exact Std.ExtTreeMap.getElem?_erase_self

/-- What is left after a further access. -/
theorem Leftover.access (leftover : Leftover id store change (.access step next)) :
    Leftover id (store.access step).2 change (next (store.access step).1) := by
  cases leftover with
  | writeBack updates only => exact .writeBack updates (only.2 _)
  | cleanup gone only =>
    refine .cleanup ?_ (only.2 _)
    rw [only.1.apps_access store]
    exact gone

/-- Where there is no app, a change ends with its first access and changes nothing. -/
theorem access_of_absent (begins : change.path id = .access step next) (absent : store.apps[id]? = none) :
    next (store.access step).1 = .done change.inVain ∧ (store.access step).2 = store := by
  cases change with
  | update update =>
    cases begins
    simp only [CredentialStore.access, absent, inVain, and_self]
  | setStatus enabled =>
    cases begins
    simp only [CredentialStore.access, CredentialStore.setAppEnabled, absent, inVain, and_self]
  | delete =>
    cases begins
    rw [access_remove_of_absent absent]
    exact ⟨rfl, rfl⟩

end AppChange

end SingleSignOn

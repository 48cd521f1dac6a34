import SingleSignOn.Proofs.Store.AccessPaths
import Mathlib.Data.List.Nodup
import Mathlib.Data.List.Permutation

namespace SingleSignOn

/-!
# Overlapping changes to an app

Changes to an app that overlap access by access are as if they had been made
one after another, unless one of them overtakes an update: comes between the
copy that the update makes of the record and the end of the update.  What such
a change has done to the record, the update undoes when it writes its copy
back.

The changes take effect in the order of their first accesses.  At any time at
most one of them has something left to do, and if it is a deletion, the others
find no app.
-/

namespace AppChanges

/-- Changes to one app, none of which has made an access. -/
def start (id : AppId) (store : CredentialStore) (calls : List AppChange) : AppChanges :=
  ⟨store, calls.map (AppChange.path id)⟩

/-- The outcomes of the changes that have ended. -/
def outcomes (changes : AppChanges) : List (Option AppChange.Outcome) :=
  changes.paths.map fun
    | .done outcome => some outcome
    | .access _ _ => none

/-- Whether a change has an access to make. -/
def isMoving (changes : AppChanges) (number : Nat) : Bool :=
  match changes.paths[number]? with
  | some (.access _ _) => true
  | _ => false

/-- Whether a change is an update that has copied the record and is not at its end. -/
def isUpdating (calls : List AppChange) (changes : AppChanges) (number : Nat) : Bool :=
  match calls[number]?, changes.paths[number]? with
  | some (.update _), some (.access step _) => !step.isCopy
  | _, _ => false

/-- No update is overtaken: while one has a copy of the record, no other change makes an access. -/
def Undisturbed (calls : List AppChange) (changes : AppChanges) : List Nat -> Prop
  | [] => True
  | number :: later =>
    (changes.isMoving number = true -> forall other, other < calls.length ->
        changes.isUpdating calls other = true -> other = number) ∧
      (changes.step number).Undisturbed calls later

instance decidableUndisturbed (calls : List AppChange) (changes : AppChanges) :
    (numbers : List Nat) -> Decidable (changes.Undisturbed calls numbers)
  | [] => isTrue trivial
  | number :: later =>
    have := decidableUndisturbed calls (changes.step number) later
    inferInstanceAs (Decidable (_ ∧ _))

variable {id : AppId} {store : CredentialStore} {calls : List AppChange} {changes : AppChanges}

theorem step_of_access {number : Nat} {step : AppAccess} {next : step.Reply -> AccessPath AppChange.Outcome}
    (moves : changes.paths[number]? = some (.access step next)) :
    changes.step number =
      ⟨(changes.store.access step).2, changes.paths.set number (next (changes.store.access step).1)⟩ := by
  unfold AppChanges.step
  rw [moves]

/-- When all changes have ended, each path is at its end. -/
theorem path_of_finished {outcomes : List AppChange.Outcome} (finished : changes.outcomes = outcomes.map some)
    {number : Nat} {path : AccessPath AppChange.Outcome} (found : changes.paths[number]? = some path) :
    ∃ outcome, path = .done outcome ∧ outcomes[number]? = some outcome := by
  have told := congrArg (fun listed => listed[number]?) finished
  simp only [AppChanges.outcomes, List.getElem?_map, found, Option.map_some] at told
  rcases Option.map_eq_some_iff.mp told.symm with ⟨outcome, given, same⟩
  cases path with
  | done result =>
    cases same
    exact ⟨outcome, rfl, given⟩
  | access step next => cases same

/-- Changes that have begun, by their numbers, in the order in which they take
effect and each with the outcome that it has or will have. -/
abbrev Account := List ((AppChange × AppChange.Outcome) × Nat)

/-- All changes of an account have ended, and the store is as they leave it. -/
def Quiet (changes : AppChanges) (account : Account) (settled : CredentialStore) : Prop :=
  changes.store = settled ∧ ∀ entry ∈ account, changes.paths[entry.2]? = some (.done entry.1.2)

/-- All changes of an account but one have ended, and the store will be as they
leave it when that one ends. -/
structure Midway (id : AppId) (changes : AppChanges) (account : Account) (settled : CredentialStore)
    (current : (AppChange × AppChange.Outcome) × Nat) (rest : AccessPath AppChange.Outcome) : Prop where
  member : current ∈ account
  path : changes.paths[current.2]? = some rest
  ends : rest.finish changes.store = (current.1.2, settled)
  others : ∀ entry ∈ account, entry.2 ≠ current.2 -> changes.paths[entry.2]? = some (.done entry.1.2)
  leftover : AppChange.Leftover id changes.store current.1.1 rest

/-- An account of overlapping changes as changes that are made one after another. -/
structure Accounts (id : AppId) (store : CredentialStore) (calls : List AppChange) (changes : AppChanges)
    (account : Account) (settled : CredentialStore) : Prop where
  size : changes.paths.length = calls.length
  numbered : (account.map Prod.snd).Nodup
  named : ∀ entry ∈ account, calls[entry.2]? = some entry.1.1
  untouched : forall number change, calls[number]? = some change -> number ∉ account.map Prod.snd ->
    changes.paths[number]? = some (change.path id)
  serial : AppChange.performAll id store (account.map fun entry => entry.1.1) =
    (account.map fun entry => entry.1.2, settled)
  underWay : changes.Quiet account settled ∨ ∃ current rest, changes.Midway id account settled current rest

theorem accounts_start (id : AppId) (store : CredentialStore) (calls : List AppChange) :
    Accounts id store calls (start id store calls) [] store where
  size := List.length_map _
  numbered := List.nodup_nil
  named := nofun
  untouched := fun number change called _ => by
    show (calls.map (AppChange.path id))[number]? = _
    rw [List.getElem?_map, called]
    rfl
  serial := rfl
  underWay := .inl ⟨rfl, nofun⟩

theorem Midway.quiet_of_done {account : Account} {settled : CredentialStore}
    {current : (AppChange × AppChange.Outcome) × Nat} {outcome : AppChange.Outcome}
    (midway : changes.Midway id account settled current (.done outcome)) (numbered : (account.map Prod.snd).Nodup) :
    changes.Quiet account settled := by
  cases midway.ends
  refine ⟨rfl, fun entry member => ?_⟩
  by_cases same : entry.2 = current.2
  · rw [List.inj_on_of_nodup_map numbered member midway.member same]
    exact midway.path
  · exact midway.others entry member same

namespace Accounts

variable {account : Account} {settled : CredentialStore} {number : Nat} {step : AppAccess}
  {next : step.Reply -> AccessPath AppChange.Outcome}

/-- The change that is under way makes a further access. -/
theorem access_further (accounts : Accounts id store calls changes account settled)
    (moves : changes.paths[number]? = some (.access step next)) (begun : number ∈ account.map Prod.snd) :
    Accounts id store calls (changes.step number) account settled := by
  rcases List.mem_map.mp begun with ⟨entry, member, rfl⟩
  rcases accounts.underWay with quiet | ⟨current, rest, midway⟩
  · cases (quiet.2 entry member).symm.trans moves
  have same : entry.2 = current.2 := by
    by_contra other
    cases (midway.others entry member other).symm.trans moves
  cases List.inj_on_of_nodup_map accounts.numbered member midway.member same
  cases Option.some.inj (midway.path.symm.trans moves)
  rw [step_of_access moves]
  have bound := (List.getElem?_eq_some_iff.mp moves).1
  refine { accounts with
    size := (List.length_set ..).trans accounts.size
    untouched := fun number change called fresh => ?_
    underWay := .inr ⟨entry, _, ⟨member, List.getElem?_set_self bound, midway.ends, ?_, midway.leftover.access⟩⟩ }
  · have apart : entry.2 ≠ number := fun same => fresh (same ▸ begun)
    exact (List.getElem?_set_ne apart).trans (accounts.untouched number change called fresh)
  · intro other found apart
    exact (List.getElem?_set_ne apart.symm).trans (midway.others other found apart)

/-- One more change has begun, and is the last of the account. -/
theorem concat (accounts : Accounts id store calls changes account settled) {change : AppChange}
    (called : calls[number]? = some change) (moves : changes.paths[number]? = some (.access step next))
    (fresh : number ∉ account.map Prod.snd) {outcome : AppChange.Outcome} {after : CredentialStore}
    (performed : change.perform id settled = (outcome, after))
    (underWay : (changes.step number).Quiet (account ++ [((change, outcome), number)]) after ∨ ∃ current rest,
      (changes.step number).Midway id (account ++ [((change, outcome), number)]) after current rest) :
    Accounts id store calls (changes.step number) (account ++ [((change, outcome), number)]) after where
  size := by
    rw [step_of_access moves]
    exact (List.length_set ..).trans accounts.size
  numbered := by
    rw [List.map_append]
    refine List.nodup_append.mpr ⟨accounts.numbered, List.nodup_singleton _, fun found member other last same => ?_⟩
    cases List.mem_singleton.mp last
    subst same
    exact fresh member
  named := by
    intro entry member
    rcases List.mem_append.mp member with earlier | last
    · exact accounts.named entry earlier
    · cases List.mem_singleton.mp last
      exact called
  untouched := by
    intro other found named unbegun
    rw [List.map_append, List.mem_append, not_or] at unbegun
    have apart : number ≠ other := fun same => unbegun.2 (same ▸ List.mem_singleton_self number)
    rw [step_of_access moves]
    exact (List.getElem?_set_ne apart).trans (accounts.untouched other found named unbegun.1)
  serial := by
    rw [List.map_append, List.map_append]
    refine (AppChange.performAll_concat _ change store).trans ?_
    rw [accounts.serial]
    dsimp only
    rw [performed]
    rfl
  underWay := underWay

/-- A change makes its first access while no other is under way. -/
theorem access_first (accounts : Accounts id store calls changes account settled)
    (quiet : changes.Quiet account settled) {change : AppChange} (called : calls[number]? = some change)
    (moves : changes.paths[number]? = some (.access step next)) (fresh : number ∉ account.map Prod.snd) :
    ∃ account settled, Accounts id store calls (changes.step number) account settled := by
  have begins : change.path id = .access step next :=
    Option.some.inj ((accounts.untouched number change called fresh).symm.trans moves)
  rcases quiet with ⟨rfl, done⟩
  have ends : (change.path id).finish changes.store = change.perform id changes.store :=
    change.finish_path changes.store
  rcases performed : change.perform id changes.store with ⟨outcome, after⟩
  rw [begins, performed] at ends
  refine ⟨_, _, accounts.concat called moves fresh performed (.inr ⟨((change, outcome), number),
    next (changes.store.access step).1, ?_⟩)⟩
  rw [step_of_access moves]
  refine ⟨List.mem_append_right _ (List.mem_singleton_self _),
    List.getElem?_set_self (List.getElem?_eq_some_iff.mp moves).1, ends, fun entry member other => ?_,
    AppChange.leftover_of_path begins changes.store⟩
  rcases List.mem_append.mp member with earlier | last
  · exact (List.getElem?_set_ne (Ne.symm other)).trans (done entry earlier)
  · cases List.mem_singleton.mp last
    exact absurd rfl other

/-- A change makes its first access while the app is gone. -/
theorem access_inVain (accounts : Accounts id store calls changes account settled)
    {current : (AppChange × AppChange.Outcome) × Nat} {rest : AccessPath AppChange.Outcome}
    (midway : changes.Midway id account settled current rest) (gone : changes.store.apps[id]? = none)
    (cleans : rest.MakesOnly AppAccess.IsCleanup) {change : AppChange} (called : calls[number]? = some change)
    (moves : changes.paths[number]? = some (.access step next)) (fresh : number ∉ account.map Prod.snd) :
    ∃ account, Accounts id store calls (changes.step number) account settled := by
  have begins : change.path id = .access step next :=
    Option.some.inj ((accounts.untouched number change called fresh).symm.trans moves)
  rcases AppChange.access_of_absent begins gone with ⟨ended, unchanged⟩
  have absent : settled.apps[id]? = none := by
    have kept := cleans.apps_finish changes.store
    rw [midway.ends] at kept
    rw [kept]
    exact gone
  have apart (entry : (AppChange × AppChange.Outcome) × Nat) (member : entry ∈ account) : number ≠ entry.2 :=
    fun same => fresh (same ▸ List.mem_map_of_mem member)
  have performed := AppChange.perform_of_absent absent change
  refine ⟨_, accounts.concat called moves fresh performed (.inr ⟨current, rest, ?_⟩)⟩
  rw [step_of_access moves, ended, unchanged]
  refine ⟨List.mem_append_left _ midway.member, ?_, midway.ends, ?_, .cleanup gone cleans⟩
  · exact (List.getElem?_set_ne (apart current midway.member)).trans midway.path
  · intro entry member other
    rcases List.mem_append.mp member with earlier | last
    · exact (List.getElem?_set_ne (apart entry earlier)).trans (midway.others entry earlier other)
    · cases List.mem_singleton.mp last
      exact List.getElem?_set_self (List.getElem?_eq_some_iff.mp moves).1

/-- While no update is overtaken, an account of the changes goes on. -/
theorem after_step (accounts : Accounts id store calls changes account settled) (number : Nat)
    (undisturbed : changes.isMoving number = true -> forall other, other < calls.length ->
      changes.isUpdating calls other = true -> other = number) :
    ∃ account settled, Accounts id store calls (changes.step number) account settled := by
  cases found : changes.paths[number]? with
  | none =>
    unfold AppChanges.step
    rw [found]
    exact ⟨account, settled, accounts⟩
  | some path =>
    cases path with
    | done outcome =>
      unfold AppChanges.step
      rw [found]
      exact ⟨account, settled, accounts⟩
    | access step next =>
      by_cases begun : number ∈ account.map Prod.snd
      · exact ⟨account, settled, accounts.access_further found begun⟩
      have bound : number < calls.length := accounts.size ▸ (List.getElem?_eq_some_iff.mp found).1
      have called : calls[number]? = some calls[number] := List.getElem?_eq_getElem bound
      rcases accounts.underWay with quiet | ⟨current, rest, midway⟩
      · exact accounts.access_first quiet called found begun
      cases midway.leftover with
      | nothing outcome =>
        exact accounts.access_first (midway.quiet_of_done accounts.numbered) called found begun
      | writeBack updates only =>
        cases rest with
        | done outcome =>
          exact accounts.access_first (midway.quiet_of_done accounts.numbered) called found begun
        | access copying after =>
          -- The update would be overtaken.
          rcases updates with ⟨update, same⟩
          have named := accounts.named current midway.member
          have updating : changes.isUpdating calls current.2 = true := by
            unfold isUpdating
            rw [named, same, midway.path]
            exact congrArg not only.1
          have moving : changes.isMoving number = true := by
            unfold isMoving
            rw [found]
          have overtaken := undisturbed moving current.2 (List.getElem?_eq_some_iff.mp named).1 updating
          exact absurd (overtaken ▸ List.mem_map_of_mem midway.member) begun
      | cleanup gone only =>
        rcases accounts.access_inVain midway gone only called found begun with ⟨longer, accounts⟩
        exact ⟨longer, settled, accounts⟩

theorem after_run (numbers : List Nat) (accounts : Accounts id store calls changes account settled)
    (undisturbed : changes.Undisturbed calls numbers) :
    ∃ account settled, Accounts id store calls (changes.run numbers) account settled := by
  induction numbers generalizing changes account settled with
  | nil => exact ⟨account, settled, accounts⟩
  | cons number later hypothesis =>
    rcases accounts.after_step number undisturbed.1 with ⟨account, settled, stepped⟩
    exact hypothesis stepped undisturbed.2

/-- When all changes have ended, so have those of the account. -/
theorem quiet_of_finished (accounts : Accounts id store calls changes account settled)
    {outcomes : List AppChange.Outcome} (finished : changes.outcomes = outcomes.map some) :
    changes.Quiet account settled := by
  rcases accounts.underWay with quiet | ⟨current, rest, midway⟩
  · exact quiet
  rcases path_of_finished finished midway.path with ⟨outcome, rfl, _⟩
  exact midway.quiet_of_done accounts.numbered

/-- When all changes have ended, the account lists each of them with its outcome. -/
theorem mem_account_iff (accounts : Accounts id store calls changes account settled)
    {outcomes : List AppChange.Outcome} (finished : changes.outcomes = outcomes.map some)
    (entry : (AppChange × AppChange.Outcome) × Nat) :
    entry ∈ account ↔ entry ∈ (calls.zip outcomes).zipIdx := by
  have quiet := accounts.quiet_of_finished finished
  have ended {entry : (AppChange × AppChange.Outcome) × Nat} (member : entry ∈ account) :
      (calls.zip outcomes)[entry.2]? = some entry.1 := by
    rcases path_of_finished finished (quiet.2 entry member) with ⟨outcome, same, found⟩
    cases same
    exact List.getElem?_zip_eq_some.mpr ⟨accounts.named entry member, found⟩
  refine Iff.trans ⟨ended, fun found => ?_⟩ List.mk_mem_zipIdx_iff_getElem?.symm
  -- A change that has not begun has not ended.
  have called := (List.getElem?_zip_eq_some.mp found).1
  have begun : entry.2 ∈ account.map Prod.snd := by
    by_contra fresh
    rcases path_of_finished finished (accounts.untouched entry.2 entry.1.1 called fresh) with ⟨outcome, ended, _⟩
    exact absurd ended (entry.1.1.path_ne_done outcome)
  rcases List.mem_map.mp begun with ⟨other, member, same⟩
  have equal := ended member
  rw [same, found] at equal
  rw [show entry = other from Prod.ext (Option.some.inj equal) same.symm]
  exact member

theorem isSerial_of_finished (accounts : Accounts id store calls changes account settled)
    {outcomes : List AppChange.Outcome} (finished : changes.outcomes = outcomes.map some) :
    AppChange.IsSerial id store calls outcomes changes.store := by
  have single : account.Nodup := accounts.numbered.of_map
  have numbers : ((calls.zip outcomes).zipIdx.map Prod.snd).Nodup := by
    rw [List.zipIdx_map_snd]
    exact List.nodup_range'
  have listed : account.Perm (calls.zip outcomes).zipIdx :=
    (List.perm_ext_iff_of_nodup single numbers.of_map).mpr (accounts.mem_account_iff finished)
  have history := listed.map Prod.fst
  rw [List.zipIdx_map_fst] at history
  refine ⟨_, history, ?_⟩
  rw [List.map_map, List.map_map, (accounts.quiet_of_finished finished).1]
  exact accounts.serial

end Accounts

/-- Where there are no updates, none is overtaken. -/
theorem undisturbed_of_noUpdate (none : ∀ change ∈ calls, forall update, change ≠ .update update)
    (numbers : List Nat) (changes : AppChanges) : changes.Undisturbed calls numbers := by
  induction numbers generalizing changes with
  | nil => trivial
  | cons number later hypothesis =>
    refine ⟨fun _ other _ updating => ?_, hypothesis _⟩
    unfold isUpdating at updating
    split at updating
    · next update _ _ called _ => exact absurd rfl (none _ (List.mem_of_getElem? called) update)
    · cases updating

/-- Deletions and changes of the status alone may overlap in any way. -/
theorem statuses_and_deletions_are_serial (id : AppId) (store : CredentialStore) (calls : List AppChange)
    (none : ∀ change ∈ calls, forall update, change ≠ .update update) (numbers : List Nat)
    (outcomes : List AppChange.Outcome)
    (finished : ((start id store calls).run numbers).outcomes = outcomes.map some) :
    AppChange.IsSerial id store calls outcomes ((start id store calls).run numbers).store := by
  rcases (accounts_start id store calls).after_run numbers (undisturbed_of_noUpdate none numbers _) with
    ⟨account, settled, accounts⟩
  exact accounts.isSerial_of_finished finished

end AppChanges

namespace Sample

/-- A store with one app, which is enabled. -/
def shop : CredentialStore :=
  (CredentialStore.empty.createApp ⟨0⟩ ⟨"shop", "secret", "https://old.example"⟩).2

/-- The app is relinked. -/
def relink : AppChange := .update ⟨none, some "https://new.example"⟩

/-- The app as the update returns it. -/
def relinked : App := ⟨1, "shop", "secret", "https://new.example", true, ⟨0⟩⟩

/-- The app is disabled after the update has copied the record. -/
def disabledMeanwhile : AppChanges :=
  (AppChanges.start 1 shop [relink, .setStatus false]).run [0, 1, 0]

/-- The app is deleted after the update has copied the record. -/
def deletedMeanwhile : AppChanges :=
  (AppChanges.start 1 shop [relink, .delete]).run [0, 1, 1, 1, 0]

/-- The app is renamed and then deleted, and others look for it in vain. -/
def alterations : List AppChange := [.update ⟨some "stall", none⟩, .delete, .setStatus true, relink]

/-- Whose turn it is: the deletion goes on while the others look for the app. -/
def turns : List Nat := [0, 0, 0, 0, 1, 2, 1, 3, 1]

/-- What comes of it. -/
def outcomes : List AppChange.Outcome :=
  [.updated (some ⟨1, "stall", "secret", "https://old.example", true, ⟨0⟩⟩), .found true, .found false,
    .updated none]

end Sample

/-- An update enables an app that was disabled meanwhile, and brings back one that
was deleted meanwhile, which no order of the calls does. -/
theorem update_undoes_what_overtakes_it :
    (Sample.disabledMeanwhile.outcomes = [.updated (some Sample.relinked), .found true].map some ∧
        Sample.disabledMeanwhile.store.apps[(1 : AppId)]? = some Sample.relinked ∧
        ¬ AppChange.IsSerial 1 Sample.shop [Sample.relink, .setStatus false]
          [.updated (some Sample.relinked), .found true] Sample.disabledMeanwhile.store) ∧
      Sample.deletedMeanwhile.outcomes = [.updated (some Sample.relinked), .found true].map some ∧
      Sample.deletedMeanwhile.store.apps[(1 : AppId)]? = some Sample.relinked ∧
      ¬ AppChange.IsSerial 1 Sample.shop [Sample.relink, .delete]
        [.updated (some Sample.relinked), .found true] Sample.deletedMeanwhile.store := by
  have stale (other : AppChange) (outcome : AppChange.Outcome) (final : CredentialStore)
      (written : final.apps[(1 : AppId)]? = some Sample.relinked)
      (forth : (AppChange.performAll 1 Sample.shop [Sample.relink, other]).2.apps[(1 : AppId)]? ≠
        some Sample.relinked)
      (back : (AppChange.performAll 1 Sample.shop [other, Sample.relink]).2.apps[(1 : AppId)]? ≠
        some Sample.relinked) :
      ¬ AppChange.IsSerial 1 Sample.shop [Sample.relink, other] [.updated (some Sample.relinked), outcome] final := by
    rintro ⟨history, order, serial⟩
    rcases List.perm_pair.mp order with rfl | rfl
    · exact forth (serial ▸ written)
    · exact back (serial ▸ written)
  have disabled : Sample.disabledMeanwhile.store.apps[(1 : AppId)]? = some Sample.relinked := by decide +kernel
  have deleted : Sample.deletedMeanwhile.store.apps[(1 : AppId)]? = some Sample.relinked := by decide +kernel
  refine ⟨⟨?_, disabled, stale _ _ _ disabled ?_ ?_⟩, ?_, deleted, stale _ _ _ deleted ?_ ?_⟩
  all_goals decide +kernel

namespace AppChanges

/-- Changes to an app of which none overtakes an update come to the store and the
outcomes that they would come to one after another. -/
theorem undisturbed_changes_are_serial (id : AppId) (store : CredentialStore) (calls : List AppChange)
    (numbers : List Nat) (outcomes : List AppChange.Outcome)
    (undisturbed : (start id store calls).Undisturbed calls numbers)
    (finished : ((start id store calls).run numbers).outcomes = outcomes.map some) :
    AppChange.IsSerial id store calls outcomes ((start id store calls).run numbers).store := by
  rcases (accounts_start id store calls).after_run numbers undisturbed with ⟨account, settled, accounts⟩
  exact accounts.isSerial_of_finished finished

end AppChanges

/-- A deletion during which other changes look for the app in vain is as if they came after it. -/
theorem undisturbed_changes_are_serial_of_deletion :
    (AppChanges.start 1 Sample.shop Sample.alterations).Undisturbed Sample.alterations Sample.turns ∧
      ((AppChanges.start 1 Sample.shop Sample.alterations).run Sample.turns).outcomes = Sample.outcomes.map some ∧
      AppChange.IsSerial 1 Sample.shop Sample.alterations Sample.outcomes
        ((AppChanges.start 1 Sample.shop Sample.alterations).run Sample.turns).store := by
  have smooth : (AppChanges.start 1 Sample.shop Sample.alterations).Undisturbed Sample.alterations Sample.turns := by
    decide +kernel
  have finished : ((AppChanges.start 1 Sample.shop Sample.alterations).run Sample.turns).outcomes =
      Sample.outcomes.map some := by
    decide +kernel
  exact ⟨smooth, finished, AppChanges.undisturbed_changes_are_serial 1 Sample.shop _ _ _ smooth finished⟩

end SingleSignOn

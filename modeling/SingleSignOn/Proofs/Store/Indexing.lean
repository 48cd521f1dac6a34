import SingleSignOn.Proofs.Store.Filing

namespace SingleSignOn

/-!
# The indices follow the records

Users are found by their email and apps are kept apart by their name.  An
index has an entry for exactly the keys that the records show now, so two
records never show the same key, and an id that was given out is not given
out again.  The store without any record is sound in this sense, and every
call keeps it sound.
-/

namespace Table

variable {Key Value : Type} [Ord Key] [Std.TransOrd Key] [Std.LawfulEqOrd Key]

theorem getElem?_insert (table : Table Key Value) (key other : Key) [Decidable (key = other)]
    (value : Value) :
    (table.insert key value)[other]? = if key = other then some value else table[other]? := by
  simp only [Std.ExtTreeMap.getElem?_insert, Std.LawfulEqCmp.compare_eq_iff_eq]

theorem getElem?_erase (table : Table Key Value) (key other : Key) [Decidable (key = other)] :
    (table.erase key)[other]? = if key = other then none else table[other]? := by
  simp only [Std.ExtTreeMap.getElem?_erase, Std.LawfulEqCmp.compare_eq_iff_eq]

end Table

/-- The index leads from each key to the one record that shows it. -/
def IndexedBy {Id Key Value : Type} [Ord Id] [Std.TransOrd Id] [Ord Key] [Std.TransOrd Key]
    (keyOf : Value -> Key) (table : Table Id Value) (index : Table Key Id) : Prop :=
  forall key id, index[key]? = some id ↔ exists value, table[id]? = some value ∧ keyOf value = key

namespace IndexedBy

variable {Id Key Value : Type} [Ord Id] [Std.TransOrd Id] [Std.LawfulEqOrd Id] [DecidableEq Id]
  [Ord Key] [Std.TransOrd Key] [Std.LawfulEqOrd Key] [DecidableEq Key]
  {keyOf : Value -> Key} {table : Table Id Value} {index : Table Key Id}

omit [Std.LawfulEqOrd Id] [DecidableEq Id] [Std.LawfulEqOrd Key] [DecidableEq Key] in
theorem empty : IndexedBy keyOf (∅ : Table Id Value) (∅ : Table Key Id) := by
  intro key id
  simp only [Std.ExtTreeMap.getElem?_empty, reduceCtorEq, false_and, exists_false]

variable (indexed : IndexedBy keyOf table index)

include indexed

omit [Std.LawfulEqOrd Id] [DecidableEq Id] [Std.LawfulEqOrd Key] [DecidableEq Key] in
/-- Records that show the same key are one record. -/
theorem eq_of_keyOf_eq {first second : Id} {value other : Value}
    (found : table[first]? = some value) (stored : table[second]? = some other)
    (same : keyOf value = keyOf other) : first = second := by
  have direct := (indexed (keyOf value) first).mpr ⟨value, found, rfl⟩
  have again := (indexed (keyOf value) second).mpr ⟨other, stored, same.symm⟩
  exact Option.some.inj (direct.symm.trans again)

theorem insert {id : Id} {value : Value} (absent : table[id]? = none)
    (free : index[keyOf value]? = none) :
    IndexedBy keyOf (table.insert id value) (index.insert (keyOf value) id) := by
  intro key other
  rw [Table.getElem?_insert, Table.getElem?_insert]
  by_cases same : id = other
  · subst same
    rw [if_pos rfl]
    have nowhere : index[key]? ≠ some id := by
      intro found
      obtain ⟨old, stored, _⟩ := (indexed key id).mp found
      rw [absent] at stored
      cases stored
    by_cases shown : keyOf value = key
    · rw [if_pos shown]
      exact ⟨fun _ => ⟨value, rfl, shown⟩, fun _ => rfl⟩
    · rw [if_neg shown]
      refine ⟨fun found => absurd found nowhere, ?_⟩
      rintro ⟨_, ⟨⟩, shows⟩
      exact absurd shows shown
  · rw [if_neg same]
    by_cases shown : keyOf value = key
    · subst shown
      rw [if_pos rfl]
      refine ⟨fun found => absurd (Option.some.inj found) same, fun stored => ?_⟩
      have found := (indexed (keyOf value) other).mpr stored
      rw [free] at found
      cases found
    · rw [if_neg shown]
      exact indexed key other

omit [Std.LawfulEqOrd Key] [DecidableEq Key] in
/-- A record that goes on showing its key needs no change of the index. -/
theorem replace {id : Id} {value old : Value} (stored : table[id]? = some old)
    (same : keyOf value = keyOf old) :
    IndexedBy keyOf (table.insert id value) index := by
  intro key other
  rw [Table.getElem?_insert]
  by_cases here : id = other
  · subst here
    rw [if_pos rfl, indexed key id, stored]
    simp only [Option.some.injEq, exists_eq_left', same]
  · rw [if_neg here]
    exact indexed key other

/-- The entry of the key that a record no longer shows goes away. -/
theorem erase {id : Id} {old : Value} (stored : table[id]? = some old) :
    IndexedBy keyOf (table.erase id) (index.erase (keyOf old)) := by
  intro key other
  rw [Table.getElem?_erase, Table.getElem?_erase]
  by_cases shown : keyOf old = key
  · rw [if_pos shown]
    refine ⟨fun found => (nomatch found), ?_⟩
    rintro ⟨value, found, shows⟩
    split at found
    · cases found
    · next different => exact absurd (indexed.eq_of_keyOf_eq stored found (shown.trans shows.symm)) different
  · rw [if_neg shown, indexed key other]
    by_cases here : id = other
    · subst here
      rw [if_pos rfl, stored]
      simp only [Option.some.injEq, exists_eq_left', shown, reduceCtorEq, false_and, exists_false]
    · rw [if_neg here]

/-- A record that shows a new key is one that was removed and added again. -/
theorem rename {id : Id} {value old : Value} (stored : table[id]? = some old)
    (different : keyOf value ≠ keyOf old) (free : index[keyOf value]? = none) :
    IndexedBy keyOf (table.insert id value) ((index.insert (keyOf value) id).erase (keyOf old)) := by
  have absent : (table.erase id)[id]? = none := by rw [Table.getElem?_erase, if_pos rfl]
  have vacant : (index.erase (keyOf old))[keyOf value]? = none := by
    rw [Table.getElem?_erase, if_neg (Ne.symm different), free]
  have anew := (indexed.erase stored).insert absent vacant
  intro key other
  have here := anew key other
  simp only [Table.getElem?_insert, Table.getElem?_erase] at here ⊢
  have records : (if id = other then some value else if id = other then none else table[other]?) =
      if id = other then some value else table[other]? := by
    split <;> rfl
  have entries : (if keyOf value = key then some id else if keyOf old = key then none else index[key]?) =
      if keyOf old = key then none else if keyOf value = key then some id else index[key]? := by
    by_cases shown : keyOf value = key
    · rw [if_pos shown, if_pos shown, if_neg fun gone => different (shown.trans gone.symm)]
    · rw [if_neg shown, if_neg shown]
  rw [records, entries] at here
  exact here

end IndexedBy

/-- The ids of a table are positive, and none is beyond a count. -/
def NumberedUpTo {Value : Type} (count : Nat) (table : Table Int Value) : Prop :=
  forall (id : Int) value, table[id]? = some value -> 0 < id ∧ id ≤ count

namespace NumberedUpTo

variable {Value : Type} {count : Nat} {table : Table Int Value} (numbered : NumberedUpTo count table)

include numbered

/-- The next number is free. -/
theorem getElem?_next : table[(count + 1 : Int)]? = none := by
  cases found : table[(count + 1 : Int)]? with
  | none => rfl
  | some value =>
    have bounded := numbered _ value found
    omega

theorem insertNext (value : Value) :
    NumberedUpTo (count + 1) (table.insert (count + 1 : Int) value) := by
  intro id other found
  rw [Table.getElem?_insert] at found
  split at found
  · omega
  · have bounded := numbered id other found
    omega

theorem replace {id : Int} {old : Value} (stored : table[id]? = some old) (value : Value) :
    NumberedUpTo count (table.insert id value) := by
  intro other found here
  rw [Table.getElem?_insert] at here
  split at here
  · next same =>
    subst same
    exact numbered id old stored
  · exact numbered other found here

theorem erase (id : Int) : NumberedUpTo count (table.erase id) := by
  intro other found here
  rw [Table.getElem?_erase] at here
  split at here
  · cases here
  · exact numbered other found here

end NumberedUpTo

namespace CredentialStore

/-- Records are filed under their ids, the indices follow them, and the ids go from one up to the counts. -/
structure IsSound (store : CredentialStore) : Prop extends store.IsFiled where
  emails : IndexedBy User.email store.users store.emails
  names : IndexedBy App.name store.apps store.appNames
  userIds : NumberedUpTo store.userCount store.users
  appIds : NumberedUpTo store.appCount store.apps

theorem isSound_empty : CredentialStore.empty.IsSound :=
  ⟨isFiled_empty, .empty, .empty, fun _ _ found => (nomatch found),
   fun _ _ found => (nomatch found)⟩

namespace IsSound

variable {store : CredentialStore} (sound : store.IsSound)

include sound

/-- A look-up by email finds the user who shows the email. -/
theorem findUserByEmail_eq_some_iff (email : String) (user : User) :
    store.findUserByEmail email = some user ↔ store.users[user.id]? = some user ∧
    user.email = email := by
  unfold findUserByEmail
  rw [Option.bind_eq_some_iff]
  constructor
  · rintro ⟨id, indexed, found⟩
    obtain ⟨other, stored, shown⟩ := (sound.emails email id).mp indexed
    cases stored.symm.trans found
    rw [sound.users id user found]
    exact ⟨found, shown⟩
  · rintro ⟨found, shown⟩
    exact ⟨user.id, (sound.emails email user.id).mpr ⟨user, found, shown⟩, found⟩

omit sound in
private theorem getElem?_eq_none_of_free {Key : Type} [Ord Key] [Std.TransOrd Key] {Value : Type}
    {table : Table Key Value} {key : Key} (free : ¬table.contains key = true) :
    table[key]? = none := by
  rw [Std.ExtTreeMap.contains_eq_isSome_getElem?] at free
  exact Option.not_isSome_iff_eq_none.mp free

theorem createUser (now : Instant) (user : NewUser) : (store.createUser now user).2.IsSound := by
  have filed := sound.toIsFiled.createUser now user
  unfold CredentialStore.createUser at filed ⊢
  by_cases taken : store.emails.contains user.email = true
  · rw [if_pos taken]
    exact sound
  · rw [if_neg taken] at filed ⊢
    exact ⟨filed, sound.emails.insert sound.userIds.getElem?_next (getElem?_eq_none_of_free taken),
      sound.names,
      sound.userIds.insertNext _, sound.appIds⟩

theorem updateUser (id : UserId) (update : UserUpdate) :
    (store.updateUser id update).2.IsSound := by
  have filed := sound.toIsFiled.updateUser id update
  unfold CredentialStore.updateUser at filed ⊢
  cases found : store.users[id]? with
  | none => exact sound
  | some current =>
    simp only [found] at filed ⊢
    by_cases same : (update.applyTo current).email = current.email
    · rw [if_pos same] at filed ⊢
      exact ⟨filed, sound.emails.replace found same, sound.names, sound.userIds.replace found _,
        sound.appIds⟩
    · rw [if_neg same] at filed ⊢
      by_cases taken : store.emails.contains (update.applyTo current).email = true
      · rw [if_pos taken]
        exact sound
      · rw [if_neg taken] at filed ⊢
        exact ⟨filed, sound.emails.rename found same (getElem?_eq_none_of_free taken), sound.names,
          sound.userIds.replace found _, sound.appIds⟩

theorem deleteUser (id : UserId) : (store.deleteUser id).2.IsSound := by
  have filed := sound.toIsFiled.deleteUser id
  unfold CredentialStore.deleteUser at filed ⊢
  cases found : store.users[id]? with
  | none => exact sound
  | some user =>
    simp only [found] at filed ⊢
    exact ⟨filed, sound.emails.erase found, sound.names, sound.userIds.erase id, sound.appIds⟩

theorem createApp (now : Instant) (app : NewApp) : (store.createApp now app).2.IsSound := by
  have filed := sound.toIsFiled.createApp now app
  unfold CredentialStore.createApp at filed ⊢
  by_cases taken : store.appNames.contains app.name = true
  · rw [if_pos taken]
    exact sound
  · rw [if_neg taken] at filed ⊢
    exact ⟨filed, sound.emails,
      sound.names.insert sound.appIds.getElem?_next (getElem?_eq_none_of_free taken),
      sound.userIds, sound.appIds.insertNext _⟩

theorem updateApp (id : AppId) (update : AppUpdate) : (store.updateApp id update).2.IsSound := by
  have filed := sound.toIsFiled.updateApp id update
  unfold CredentialStore.updateApp at filed ⊢
  cases found : store.apps[id]? with
  | none => exact sound
  | some current =>
    simp only [found] at filed ⊢
    by_cases same : (update.applyTo current).name = current.name
    · rw [if_pos same] at filed ⊢
      exact ⟨filed, sound.emails, sound.names.replace found same, sound.userIds,
        sound.appIds.replace found _⟩
    · rw [if_neg same] at filed ⊢
      by_cases taken : store.appNames.contains (update.applyTo current).name = true
      · rw [if_pos taken]
        exact sound
      · rw [if_neg taken] at filed ⊢
        exact ⟨filed, sound.emails, sound.names.rename found same (getElem?_eq_none_of_free taken),
          sound.userIds,
          sound.appIds.replace found _⟩

theorem deleteApp (id : AppId) : (store.deleteApp id).2.IsSound := by
  have filed := sound.toIsFiled.deleteApp id
  unfold CredentialStore.deleteApp at filed ⊢
  cases found : store.apps[id]? with
  | none => exact sound
  | some app =>
    simp only [found] at filed ⊢
    exact ⟨filed, sound.emails, sound.names.erase found, sound.userIds, sound.appIds.erase id⟩

theorem setAppEnabled (id : AppId) (enabled : Bool) :
    (store.setAppEnabled id enabled).2.IsSound := by
  have filed := sound.toIsFiled.setAppEnabled id enabled
  unfold CredentialStore.setAppEnabled at filed ⊢
  cases found : store.apps[id]? with
  | none => exact sound
  | some app =>
    simp only [found] at filed ⊢
    exact ⟨filed, sound.emails, sound.names.replace found rfl, sound.userIds,
      sound.appIds.replace found _⟩

theorem answer (now : Instant) (call : CredentialCall) : (store.answer now call).2.IsSound := by
  cases call with
  | createUser user => exact sound.createUser now user
  | updateUser id update => exact sound.updateUser id update
  | deleteUser id => exact sound.deleteUser id
  | createApp app => exact sound.createApp now app
  | updateApp id update => exact sound.updateApp id update
  | deleteApp id => exact sound.deleteApp id
  | setAppEnabled id enabled => exact sound.setAppEnabled id enabled
  | setAdmin userId appId isAdmin =>
    exact ⟨⟨sound.users, sound.apps⟩, sound.emails, sound.names, sound.userIds, sound.appIds⟩
  | removeAdmin userId appId =>
    exact ⟨⟨sound.users, sound.apps⟩, sound.emails, sound.names, sound.userIds, sound.appIds⟩
  | _ => exact sound

end IsSound

end CredentialStore

theorem Stores.isSound_answer (stores : Stores) (now : Instant) (request : StoreCall)
    (sound : stores.credentials.IsSound) : (stores.answer now request).2.credentials.IsSound := by
  cases request with
  | credentials call => exact sound.answer now call
  | tokens call => exact sound

end SingleSignOn

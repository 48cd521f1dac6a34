import SingleSignOn.Proofs.Store.Indexing
import SingleSignOn.Proofs.Store.TokenCalls

namespace SingleSignOn

/-!
# Store calls for one user

Some store calls name one user and do nothing for anybody else.  What they
leave as it is, everything but the records, the grants, the refresh tokens and
the indexed email of that user, is told once for all of them.
-/

/-- A store call that names no other user and changes no app. -/
inductive StoreCall.ActsOn (userId : UserId) : StoreCall -> Prop
  | reads : ActsOn userId (.credentials (.findUserById userId))
  | updates (update : UserUpdate) : ActsOn userId (.credentials (.updateUser userId update))
  | deletes : ActsOn userId (.credentials (.deleteUser userId))
  | revokes : ActsOn userId (.tokens (.deleteByUser userId))

/-- Stores that differ in nothing but the record of a user, the email that leads to it, and the grants and
refresh tokens of that user. -/
structure Stores.AgreeBut (userId : UserId) (before after : Stores) : Prop where
  users : forall id, id ≠ userId -> after.credentials.users[id]? = before.credentials.users[id]?
  emails : forall (email : String) id, id ≠ userId ->
    (after.credentials.emails[email]? = some id ↔ before.credentials.emails[email]? = some id)
  grants : forall grant : Grant, grant.userId ≠ userId ->
    after.credentials.grants[grant]? = before.credentials.grants[grant]?
  tokens : forall (digest : String) (record : RefreshToken), record.userId ≠ userId ->
    (after.tokens.tokens[digest]? = some record ↔ before.tokens.tokens[digest]? = some record)
  apps : after.credentials.apps = before.credentials.apps
  names : after.credentials.appNames = before.credentials.appNames
  counts : after.credentials.userCount = before.credentials.userCount ∧
    after.credentials.appCount = before.credentials.appCount

namespace CredentialStore

variable (store : CredentialStore) (userId : UserId)

/-- An update touches the record of its user and the index of emails alone. -/
theorem updateUser_frame (update : UserUpdate) :
    (forall id, id ≠ userId -> (store.updateUser userId update).2.users[id]? = store.users[id]?) ∧
      (store.updateUser userId update).2.grants = store.grants ∧
      (store.updateUser userId update).2.apps = store.apps ∧
      (store.updateUser userId update).2.appNames = store.appNames ∧
      (store.updateUser userId update).2.userCount = store.userCount ∧
      (store.updateUser userId update).2.appCount = store.appCount := by
  have inserted (updated : User) (id : UserId) (other : id ≠ userId) :
      (store.users.insert userId updated)[id]? = store.users[id]? := by
    rw [Table.getElem?_insert, if_neg other.symm]
  unfold updateUser
  split
  · exact ⟨fun _ _ => rfl, rfl, rfl, rfl, rfl, rfl⟩
  · dsimp only
    split
    · exact ⟨inserted _, rfl, rfl, rfl, rfl, rfl⟩
    · split
      · exact ⟨fun _ _ => rfl, rfl, rfl, rfl, rfl, rfl⟩
      · exact ⟨inserted _, rfl, rfl, rfl, rfl, rfl⟩

/-- A deletion touches the record and the grants of its user and the index of emails alone. -/
theorem deleteUser_frame :
    (forall id, id ≠ userId -> (store.deleteUser userId).2.users[id]? = store.users[id]?) ∧
      (forall grant : Grant, grant.userId ≠ userId ->
        (store.deleteUser userId).2.grants[grant]? = store.grants[grant]?) ∧
      (store.deleteUser userId).2.apps = store.apps ∧
      (store.deleteUser userId).2.appNames = store.appNames ∧
      (store.deleteUser userId).2.userCount = store.userCount ∧
      (store.deleteUser userId).2.appCount = store.appCount := by
  unfold deleteUser
  split
  · exact ⟨fun _ _ => rfl, fun _ _ => rfl, rfl, rfl, rfl, rfl⟩
  · dsimp only
    refine ⟨?_, ?_, rfl, rfl, rfl, rfl⟩
    · intro id other
      rw [Table.getElem?_erase, if_neg other.symm]
    · intro grant other
      rw [Std.ExtTreeMap.getElem?_filter']
      cases store.grants[grant]? with
      | none => rfl
      | some isAdmin => exact Option.filter_some_pos (bne_iff_ne.mpr other)

end CredentialStore

namespace Stores.AgreeBut

variable {userId : UserId} {before after : Stores}

/-- The index of emails follows the records, so it is enough to look at these. -/
theorem emails_of_users (sound : before.credentials.IsSound) (kept : after.credentials.IsSound)
    (users : forall id, id ≠ userId -> after.credentials.users[id]? = before.credentials.users[id]?)
    (email : String) (id : UserId) (other : id ≠ userId) :
    after.credentials.emails[email]? = some id ↔ before.credentials.emails[email]? = some id := by
  rw [kept.emails email id, sound.emails email id, users id other]

theorem refl (stores : Stores) : Stores.AgreeBut userId stores stores := by
  constructor
  · intro id _
    rfl
  · intro email id _
    rfl
  · intro grant _
    rfl
  · intro digest record _
    rfl
  · rfl
  · rfl
  · exact ⟨rfl, rfl⟩

theorem trans {later : Stores} (first : Stores.AgreeBut userId before after)
    (second : Stores.AgreeBut userId after later) : Stores.AgreeBut userId before later := by
  constructor
  · intro id other
    exact (second.users id other).trans (first.users id other)
  · intro email id other
    exact (second.emails email id other).trans (first.emails email id other)
  · intro grant other
    exact (second.grants grant other).trans (first.grants grant other)
  · intro digest record other
    exact (second.tokens digest record other).trans (first.tokens digest record other)
  · exact second.apps.trans first.apps
  · exact second.names.trans first.names
  · exact ⟨second.counts.1.trans first.counts.1, second.counts.2.trans first.counts.2⟩

/-- A store call that acts on a user leaves everything else as it is. -/
theorem answer {stores : Stores} (sound : stores.credentials.IsSound) (now : Instant) {request : StoreCall}
    (acts : request.ActsOn userId) : Stores.AgreeBut userId stores (stores.answer now request).2 := by
  have kept := Stores.isSound_answer stores now request sound
  cases acts with
  | reads => exact refl stores
  | updates update =>
    rcases stores.credentials.updateUser_frame userId update with ⟨users, grants, apps, names, counts⟩
    exact ⟨users, emails_of_users sound kept users, fun grant _ => congrArg (·[grant]?) grants,
      fun _ _ _ => Iff.rfl, apps, names, counts⟩
  | deletes =>
    rcases stores.credentials.deleteUser_frame userId with ⟨users, grants, apps, names, counts⟩
    exact ⟨users, emails_of_users sound kept users, grants, fun _ _ _ => Iff.rfl, apps, names, counts⟩
  | revokes =>
    refine ⟨fun _ _ => rfl, fun _ _ _ => Iff.rfl, fun _ _ => rfl, ?_, rfl, rfl, ⟨rfl, rfl⟩⟩
    intro digest record other
    change (stores.tokens.answer now (.deleteByUser userId)).2.tokens[digest]? = some record ↔ _
    rw [stores.tokens.getElem?_answer now (.deleteByUser userId) digest]
    refine Option.filter_eq_some_iff.trans (and_iff_left ?_)
    rw [Bool.not_eq_true', beq_eq_false_iff_ne]
    exact other

end Stores.AgreeBut

end SingleSignOn

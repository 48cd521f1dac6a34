import SingleSignOn.Proofs.Service.Accounts
import SingleSignOn.Proofs.Service.Exchange
import SingleSignOn.Proofs.Service.PasswordChange

namespace SingleSignOn

/-!
# A new password whose store calls fail

A new password is written to one store, and after that the refresh tokens of
the user are removed from the other.  If the first call is not carried out,
nothing has changed, and if both are, all is done.  But if the second fails
after the first, the password is a new one and the sessions of the old one go
on; the caller is told of a failure, and nothing takes the new password back.
-/

/-- The stored hash of a user is another one than before, and a refresh token that the user held before is
still stored. -/
structure World.IsTorn (before after : World) (userId : UserId) : Prop where
  rehashed : ∃ old ∈ before.stores.credentials.users[userId]?, ∃ new ∈ after.stores.credentials.users[userId]?,
    new.passwordHash ≠ old.passwordHash
  held : ∃ digest, ∃ record ∈ before.record? digest, record.userId = userId ∧ after.record? digest = some record

namespace World.IsTorn

variable {before after : World} {userId : UserId}

/-- Nothing is torn where no user has changed. -/
theorem credentials_ne (torn : before.IsTorn after userId) :
    after.stores.credentials ≠ before.stores.credentials := by
  rintro same
  rcases torn.rehashed with ⟨old, stored, new, still, different⟩
  rw [same] at still
  cases stored.symm.trans still
  exact different rfl

/-- Nothing is torn where the tokens of the user are gone. -/
theorem exists_kept (torn : before.IsTorn after userId) :
    ∃ digest record, after.record? digest = some record ∧ record.userId = userId := by
  rcases torn.held with ⟨digest, record, _, mine, kept⟩
  exact ⟨digest, record, kept, mine⟩

end World.IsTorn

namespace Service

/-- What a new password can come to.  With success, the user is written as it was asked for, and all tokens of the
user are gone.  A failure leaves the stores as they are, or, if it is that of the removal of the tokens, with the
user written and every token in its place. -/
def RenewsOrKeeps (service : Service) (mishaps : Mishaps) (passage later : Passage) (userId : UserId)
    (update : UserUpdate) : Except Error User -> Prop
  | .ok user =>
      passage.world.stores.credentials.updateUser userId update = (.ok (some user), later.world.stores.credentials) ∧
        forall digest, later.world.record? digest =
          (passage.world.record? digest).filter fun record => !(record.userId == userId)
  | .error _ =>
      later.world.stores = passage.world.stores ∨
        ∃ user earlier,
          passage.world.stores.credentials.updateUser userId update =
            (.ok (some user), later.world.stores.credentials) ∧
          later.world.stores.tokens = passage.world.stores.tokens ∧
          later.calls = .tokens (.deleteByUser userId) :: earlier ∧
          mishaps.carriesOut service.auth.storeTimeout earlier.length = false

variable {service : Service} {mishaps : Mishaps} {passage later : Passage} {userId : UserId}

/-- The end of an update with a new password: the user is written, and the tokens are removed. -/
theorem applyUpdate_renewsOrKeeps (truthful : mishaps.Truthful) {update : UserUpdate}
    (renews : update.passwordHash.isSome = true) {answer : Except Error User}
    (done : Program.runUnder mishaps (service.applyUpdate userId update).run passage = (answer, later)) :
    service.RenewsOrKeeps mishaps passage later userId update answer := by
  have changes : update.isEmpty = false := by
    rw [UserUpdate.isEmpty, Option.isNone_eq_false_iff.mpr renews, Bool.and_false, Bool.false_and]
  unfold applyUpdate at done
  rw [changes, if_neg Bool.false_ne_true, renews] at done
  rcases runUnder_credentials_bind_cases truthful done with ⟨⟨_, rfl⟩, rfl⟩ | ⟨found, credentials, called, done⟩
  · exact .inl rfl
  rcases found with _ | user
  · cases done
    rw [CredentialStore.updateUser_of_absent called]
    exact .inl rfl
  rcases Operation.runUnder_bind_cases done with ⟨_, impossible, _⟩ | ⟨_, _, found, done⟩
  · cases impossible
  cases found
  rcases Operation.runUnder_bind_cases done with
    ⟨error, failed, rfl⟩ | ⟨count, between, counted, returned⟩
  · rcases Operation.runUnder_call_ends truthful failed with ⟨_, impossible, _⟩ | ⟨ineffective, _, rfl⟩
    · cases impossible
    · exact .inr ⟨user, _, called, rfl, rfl, ineffective⟩
  · cases returned
    rcases Operation.runUnder_call_ends truthful counted with ⟨_, _, rfl⟩ | ⟨_, ⟨_, impossible⟩, _⟩
    · exact ⟨called, World.record?_answer (passage.world.withCredentials credentials) (.tokens (.deleteByUser userId))⟩
    · cases impossible

/-- However its store calls end, a change of the password is done as a whole or not at all, unless the removal of
the tokens fails. -/
theorem updateUser_renewsOrKeeps (truthful : mishaps.Truthful) {change : ProfileChange} {password : String}
    (given : change.password = some password) {answer : Except Error User}
    (done : Program.runUnder mishaps (service.updateUser userId change).run passage = (answer, later)) :
    service.RenewsOrKeeps mishaps passage later userId
      ⟨change.email, some (service.nextHash passage.world password), change.profile⟩ answer := by
  unfold Service.updateUser at done
  rw [given] at done
  dsimp only at done
  split at done
  · cases done
    exact .inl rfl
  split at done
  · cases done
    exact .inl rfl
  have hashed : Program.runUnder mishaps (Operation.ofProgram (service.hashPassword password)).run passage =
      (.ok (service.nextHash passage.world password),
        ⟨(passage.world.drawBytes Password.saltLength).2, passage.calls⟩) := rfl
  rw [Operation.runUnder_bind, hashed] at done
  have applied : Program.runUnder mishaps (service.applyUpdate userId
      ⟨change.email, some (service.nextHash passage.world password), change.profile⟩).run
      ⟨(passage.world.drawBytes Password.saltLength).2, passage.calls⟩ = (answer, later) := done
  -- Drawing the salt has not touched the stores.
  have outcome := applyUpdate_renewsOrKeeps truthful rfl applied
  exact outcome

/-- A change of the password can be torn only by the removal of the tokens, its last call: then it has failed, and
the tokens are those of before.  In every other case it is done as a whole or has changed nothing. -/
theorem torn_only_by_failed_removal (truthful : mishaps.Truthful) {change : ProfileChange} {password : String}
    (given : change.password = some password) {answer : Except Error User}
    (ran : (service.program (.updateUser userId change)).runUnder mishaps passage = (answer, later)) :
    service.RenewsOrKeeps mishaps passage later userId
        ⟨change.email, some (service.nextHash passage.world password), change.profile⟩ answer ∧
      (passage.world.IsTorn later.world userId ->
        (∃ error, answer = .error error) ∧ later.world.stores.tokens = passage.world.stores.tokens ∧
          ∃ earlier, later.calls = .tokens (.deleteByUser userId) :: earlier ∧
            mishaps.carriesOut service.auth.storeTimeout earlier.length = false) := by
  have outcome := updateUser_renewsOrKeeps truthful given ran
  refine ⟨outcome, fun torn => ?_⟩
  cases answer with
  | ok user =>
    rcases torn.exists_kept with ⟨digest, record, kept, mine⟩
    rw [outcome.2] at kept
    have other := (Option.filter_eq_some_iff.mp kept).2
    rw [mine, beq_self_eq_true] at other
    cases other
  | error error =>
    rcases outcome with same | ⟨user, earlier, _, tokens, last, ineffective⟩
    · exact absurd (congrArg Stores.credentials same) torn.credentials_ne
    · exact ⟨⟨error, rfl⟩, tokens, earlier, last, ineffective⟩

end Service

namespace Sample

/-- The second store call never ends. -/
def unanswered : Mishaps := fun number => if number = 1 then some .silence else none

/-- The user, who is logged in, gets a new password. -/
def rehashed : Except Error User × Passage :=
  (service.program (.updateUser 1 newPassword)).runUnder unanswered ⟨loggedIn, []⟩

/-- The hash is another one, and the token of the old session is still stored. -/
theorem isTorn_rehashed : loggedIn.IsTorn rehashed.2.world 1 where
  rehashed := by decide +kernel
  held := ⟨service.tokenDigest token, by decide +kernel⟩

end Sample

/-- The removal of the tokens is given up, and the change is torn. -/
theorem torn_only_by_failed_removal_of_unanswered :
    Sample.unanswered.Truthful ∧ Sample.newPassword.password = some "battery staple" ∧
      (Sample.service.program (.updateUser 1 Sample.newPassword)).runUnder Sample.unanswered ⟨Sample.loggedIn, []⟩ =
        (Sample.rehashed.1, Sample.rehashed.2) ∧
      Sample.service.RenewsOrKeeps Sample.unanswered ⟨Sample.loggedIn, []⟩ Sample.rehashed.2 1
        ⟨none, some (Sample.service.nextHash Sample.loggedIn "battery staple"), none⟩ Sample.rehashed.1 ∧
      (∃ error, Sample.rehashed.1 = .error error) ∧
      Sample.rehashed.2.world.stores.tokens = Sample.loggedIn.stores.tokens ∧
      ∃ earlier, Sample.rehashed.2.calls = .tokens (.deleteByUser 1) :: earlier ∧
        Sample.unanswered.carriesOut Sample.service.auth.storeTimeout earlier.length = false := by
  have truthful : Sample.unanswered.Truthful := Mishaps.truthful_of_one .silence nofun 1
  have ran : Sample.rehashed = (Sample.rehashed.1, Sample.rehashed.2) := (Prod.eta _).symm
  have told := Service.torn_only_by_failed_removal truthful rfl ran
  exact ⟨truthful, rfl, ran, told.1, told.2 Sample.isTorn_rehashed⟩

/-- A new password is asked for and the second of the two store calls never ends.  The user has the new password,
and the refresh token of the session of the old one is still stored. -/
theorem password_changed_and_token_kept :
    Sample.unanswered.Truthful ∧ Sample.newPassword.password.any (!·.isEmpty) = true ∧
      (Sample.service.program (.updateUser 1 Sample.newPassword)).runUnder Sample.unanswered ⟨Sample.loggedIn, []⟩ =
        (Sample.rehashed.1, Sample.rehashed.2) ∧
      Sample.loggedIn.IsTorn Sample.rehashed.2.world 1 := by
  have truthful : Sample.unanswered.Truthful := Mishaps.truthful_of_one .silence nofun 1
  exact ⟨truthful, by decide, (Prod.eta _).symm, Sample.isTorn_rehashed⟩

end SingleSignOn

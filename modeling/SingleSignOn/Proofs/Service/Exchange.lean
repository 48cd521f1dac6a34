import SingleSignOn.Proofs.RefreshToken.Stage
import SingleSignOn.Proofs.Service.Withstanding

namespace SingleSignOn

/-!
# A refresh is all or nothing

A refresh stores the new token before it removes the old one, and nothing can
fail after that but the removal.  So a refresh that fails has changed nothing,
unless the token that was presented had expired, and one that succeeds has
done all there is to do, unless the old token is left over.
-/

namespace World

variable (world : World)

/-- A new refresh token is stored under a digest that is not taken, or nothing happens. -/
theorem answer_create_cases (record : NewRefreshToken) :
    (∃ error, world.answer (.tokens (.create record)) = (.error error, world)) ∨
      (world.record? record.digest = none ∧ (world.answer (.tokens (.create record))).1 = .ok ()) := by
  cases taken : world.record? record.digest with
  | some other =>
    refine .inl ⟨TokenStore.tokenTaken, ?_⟩
    have answered := world.stores.tokens.create_of_some world.now record taken
    simp only [World.answer, Stores.answer, TokenStore.answer, answered]
  | none => exact .inr ⟨rfl, Option.some.inj (world.create_reply record taken)⟩

/-- The records after a new token was stored and the removal of another one has ended. -/
theorem record?_exchange {digest : String} {stored : RefreshToken} {record : NewRefreshToken}
    (free : world.record? record.digest = none) (presented : world.record? digest = some stored) (ending : Ending) :
    let after := ((world.answer (.tokens (.create record))).2.endCall (.tokens (.deleteByToken digest)) ending).2
    after.record? record.digest =
        some ⟨record.digest, record.userId, record.appId, record.expiresAt, world.now⟩ ∧
      after.record? digest = (if ending.isEffective then none else some stored) ∧
      forall other, other ≠ digest -> other ≠ record.digest -> after.record? other = world.record? other := by
  have different : digest ≠ record.digest := by
    rintro rfl
    cases presented.symm.trans free
  have created (other : String) (apart : other ≠ record.digest) :
      (world.answer (.tokens (.create record))).2.record? other = world.record? other :=
    world.record?_create_of_ne record .carriedOut apart
  refine ⟨?_, ?_, fun other apart fresh => ?_⟩
  · exact (World.record?_deleteByToken_of_ne _ digest ending different.symm).trans
      (world.record?_create_self record free)
  · rw [World.record?_endCall, created digest different, presented]
    refine ite_congr rfl (fun _ => if_pos rfl) fun _ => rfl
  · exact (World.record?_deleteByToken_of_ne _ digest ending apart).trans (created other fresh)

end World

namespace Service

/-- What a refresh has come to that hands out a session: the record of the new
token is stored, the record of the presented token is gone if its removal was
carried out, and no other record has changed. -/
structure Exchanges (service : Service) (world later : World) (token : String) (session : Session)
    (stored : RefreshToken) (user : User) (app : App) (removed : Bool) : Prop where
  presented : world.record? (service.tokenDigest token) = some stored
  alive : stored.isExpiredAt world.now = false
  holder : world.stores.credentials.users[stored.userId]? = some user
  active : world.stores.credentials.apps[stored.appId]? = some app
  enabled : app.enabled = true
  /-- Where records stand under their own ids, the new token is for the same user and app. -/
  same : world.stores.credentials.IsFiled -> user.id = stored.userId ∧ app.id = stored.appId
  unused : world.record? (service.tokenDigest session.refreshToken) = none
  added : ∃ deadline, service.refreshDeadline? world.now = some deadline ∧
    later.record? (service.tokenDigest session.refreshToken) =
      some ⟨service.tokenDigest session.refreshToken, user.id, app.id, deadline, world.now⟩
  left : later.record? (service.tokenDigest token) = if removed then none else some stored
  others : forall digest, digest ≠ service.tokenDigest token -> digest ≠ service.tokenDigest session.refreshToken ->
    later.record? digest = world.record? digest

/-- All or nothing: what a refresh can come to. -/
def AllOrNothing (service : Service) (mishaps : Mishaps) (passage later : Passage) (token : String) :
    Except Error Session -> Prop
  | .ok session => ∃ stored user app earlier,
      later.calls = .tokens (.deleteByToken (service.tokenDigest token)) :: earlier ∧
        service.Exchanges passage.world later.world token session stored user app
          (mishaps.carriesOut service.auth.storeTimeout earlier.length)
  | .error _ =>
      later.world.stores.tokens = passage.world.stores.tokens ∨
        ∃ stored, passage.world.record? (service.tokenDigest token) = some stored ∧
          stored.isExpiredAt passage.world.now = true ∧
          later.world.stores.tokens = (passage.world.stores.tokens.deleteByToken (service.tokenDigest token)).2

variable {service : Service} {mishaps : Mishaps} {passage later : Passage}

/-- The storing of a new token fails, or the token has a digest that is not taken. -/
theorem runUnder_create_cases {α : Type} (truthful : mishaps.Truthful) {record : NewRefreshToken}
    {continuation : Unit -> Operation α} {answer : Except Error α}
    (done : Program.runUnder mishaps (service.tokens (.create record) >>= continuation).run passage =
      (answer, later)) :
    ((∃ error, answer = .error error) ∧ later = ⟨passage.world, .tokens (.create record) :: passage.calls⟩) ∨
      (passage.world.record? record.digest = none ∧
        Program.runUnder mishaps (continuation ()).run
          ⟨(passage.world.answer (.tokens (.create record))).2, .tokens (.create record) :: passage.calls⟩ =
            (answer, later)) := by
  rcases passage.world.answer_create_cases record with ⟨error, unchanged⟩ | ⟨free, stored⟩
  · rcases Operation.runUnder_reading_cases truthful (congrArg Prod.snd unchanged) done with failed | ⟨_, replied, _⟩
    · exact .inl failed
    · rw [unchanged] at replied
      cases replied
  · rcases Operation.runUnder_call_cases truthful done with failed | ⟨_, refused, _⟩ | ⟨_, _, goesOn⟩
    · exact .inl failed
    · cases refused.symm.trans stored
    · exact .inr ⟨free, goesOn⟩

/-- The exchange itself: once the new token is stored, only the removal of the old one can fail. -/
theorem exchange_cases (truthful : mishaps.Truthful) {digest : String} {session : Session}
    {record : NewRefreshToken} {answer : Except Error Session}
    (done : Program.runUnder mishaps (ExceptT.run do
      service.tokens (.create record)
      match ← service.attempt (.tokens (.deleteByToken digest)) with
      | .ok 0 =>
        let _ ← service.attempt (.tokens (.deleteByToken record.digest))
        throw .invalidCredentials
      | _ => return session) passage = (answer, later))
    {stored : RefreshToken} (presented : passage.world.record? digest = some stored) :
    ((∃ error, answer = .error error) ∧ later.world.stores = passage.world.stores) ∨
      (answer = .ok session ∧ passage.world.record? record.digest = none ∧
        ∃ ending, later = ⟨((passage.world.answer (.tokens (.create record))).2.endCall
              (.tokens (.deleteByToken digest)) ending).2,
            .tokens (.deleteByToken digest) :: .tokens (.create record) :: passage.calls⟩ ∧
          ending.isEffective = mishaps.carriesOut service.auth.storeTimeout (passage.calls.length + 1)) := by
  rcases runUnder_create_cases truthful done with ⟨failed, rfl⟩ | ⟨free, done⟩
  · exact .inl ⟨failed, rfl⟩
  rcases Operation.runUnder_attempt_cases truthful done with ⟨reply, _, ends, done⟩
  rcases ends with ⟨effective, counted, rfl⟩ | ⟨ineffective, ⟨error, rfl⟩, rfl⟩
  · -- The record was there when the token was presented, and the new token has another digest.
    have different : digest ≠ record.digest := by
      rintro rfl
      cases presented.symm.trans free
    have kept : (passage.world.answer (.tokens (.create record))).2.record? digest = some stored :=
      (passage.world.record?_create_of_ne record .carriedOut different).trans presented
    have one : reply = .ok (1 : Nat) := by
      have removal := (passage.world.answer (.tokens (.create record))).2.deleteByToken_reply digest .carriedOut
      rw [kept] at removal
      exact counted.trans (Option.some.inj removal)
    subst one
    cases done
    exact .inr ⟨rfl, free, .carriedOut, rfl, effective.symm⟩
  · cases done
    exact .inr ⟨rfl, free, .refused error, rfl, ineffective.symm⟩

/-- However its store calls end, a refresh exchanges the presented token or leaves the stores as they
are, but for an expired token that is presented, which may go. -/
theorem refresh_is_all_or_nothing (truthful : mishaps.Truthful) {token : String} {answer : Except Error Session}
    (ran : (service.program (.refresh token)).runUnder mishaps passage = (answer, later)) :
    later.world.stores.credentials = passage.world.stores.credentials ∧
      service.AllOrNothing mishaps passage later token answer := by
  have done : Program.runUnder mishaps (service.refresh token).run passage = (answer, later) := ran
  have unchanged {answer : Except Error Session} (failed : ∃ error, answer = .error error)
      (kept : later.world.stores = passage.world.stores) :
      later.world.stores.credentials = passage.world.stores.credentials ∧
        service.AllOrNothing mishaps passage later token answer := by
    rcases failed with ⟨error, rfl⟩
    rw [kept]
    exact ⟨rfl, .inl (congrArg Stores.tokens kept)⟩
  unfold Service.refresh at done
  rcases runUnder_find_cases truthful done with ⟨failed, rfl⟩ | done
  · exact unchanged failed rfl
  rcases presented : passage.world.record? (service.tokenDigest token) with _ | stored
  · rw [presented] at done
    cases done
    exact unchanged ⟨_, rfl⟩ rfl
  rw [presented] at done
  rcases Operation.runUnder_bind_cases done with ⟨_, impossible, _⟩ | ⟨now, second, clock, done⟩
  · cases impossible
  cases clock
  dsimp only at done
  split at done
  · next expired =>
    rcases Operation.runUnder_attempt_cases truthful done with ⟨_, _, ends, done⟩
    cases done
    rcases ends with ⟨_, _, rfl⟩ | ⟨_, _, rfl⟩
    · exact ⟨rfl, .inr ⟨stored, presented, expired, rfl⟩⟩
    · exact unchanged ⟨_, rfl⟩ rfl
  next alive =>
  have looks : StoreCall.IsLookup (.credentials (.findUserById stored.userId)) := trivial
  rcases runUnder_lookup_cases truthful looks done with ⟨failed, rfl⟩ | ⟨holder, same, done⟩
  · exact unchanged failed rfl
  rcases holder with _ | user
  · cases done
    exact unchanged ⟨_, rfl⟩ rfl
  dsimp only at done same
  rcases runUnder_opening_cases truthful done with
    ⟨failed, kept, _⟩ | ⟨app, expiresAt, deadline, active, enabled, refresh, done⟩
  · exact unchanged failed kept
  rcases exchange_cases truthful done presented with ⟨failed, kept⟩ | ⟨rfl, free, ending, rfl, effective⟩
  · exact unchanged failed kept
  rcases World.record?_exchange _ free presented ending with ⟨added, left, others⟩
  rw [effective] at left
  have filed (filed : passage.world.stores.credentials.IsFiled) : user.id = stored.userId ∧ app.id = stored.appId :=
    ⟨filed.users stored.userId user (Except.ok.inj same), filed.apps stored.appId app active⟩
  refine ⟨?_, stored, user, app, _, rfl, ⟨presented, Bool.not_eq_true _ ▸ alive, Except.ok.inj same, active,
    enabled, filed, free, ⟨deadline, refresh, added⟩, left, others⟩⟩
  cases ending <;> rfl

end Service

namespace Sample

/-- The user has logged in. -/
def loggedIn : World := (Program.run (service.program (.login email password 1)) world).2

/-- The removal of the presented token never ends. -/
def hanging : Mishaps := fun number => if number = 5 then some .silence else none

/-- A refresh that cannot remove the token that was presented. -/
def unremoved : Except Error Session × Passage :=
  (service.program (.refresh token)).runUnder hanging ⟨loggedIn, []⟩

end Sample

/-- The refresh succeeds, and leaves the presented token beside the new one. -/
theorem refresh_is_all_or_nothing_of_hanging :
    Sample.hanging.Truthful ∧
      (Sample.service.program (.refresh Sample.token)).runUnder Sample.hanging ⟨Sample.loggedIn, []⟩ =
        (Sample.unremoved.1, Sample.unremoved.2) ∧
      Sample.unremoved.1.toBool = true ∧ Sample.unremoved.2.world.stores.tokens.tokens.size = 2 ∧
      Sample.service.AllOrNothing Sample.hanging ⟨Sample.loggedIn, []⟩ Sample.unremoved.2 Sample.token
        Sample.unremoved.1 := by
  have truthful : Sample.hanging.Truthful := Mishaps.truthful_of_one .silence nofun 5
  have ran : Sample.unremoved = (Sample.unremoved.1, Sample.unremoved.2) := (Prod.eta _).symm
  have observed : Sample.unremoved.1.toBool = true ∧ Sample.unremoved.2.world.stores.tokens.tokens.size = 2 := by
    decide +kernel
  exact ⟨truthful, ran, observed.1, observed.2, (Service.refresh_is_all_or_nothing truthful ran).2⟩

end SingleSignOn

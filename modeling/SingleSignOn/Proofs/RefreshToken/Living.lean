import SingleSignOn.Proofs.Program.InStep
import SingleSignOn.Proofs.Service.Kinds
import SingleSignOn.Proofs.Store.TokenCalls

namespace SingleSignOn

/-!
# Refresh tokens that are alive

A refresh token that has expired is dead: nothing can be done with it, and
the clock does not bring it back.  So two stores are alike if they differ
only in dead tokens.  Every store call keeps them alike, and tells the two
apart only by counts of deletions and by what is found of a dead token.

There is one exception: a token cannot be stored under the digest of another
one, dead or alive.  That is why random texts have to be new.
-/

/-- The digests of the refresh tokens that were created by store calls. -/
def newDigests (calls : List StoreCall) : List String :=
  (calls.filterMap StoreCall.created?).map NewRefreshToken.digest

/-- The refresh tokens that are created by store calls are new: no two of
them have one digest, and none has the digest of a token that was stored
before. -/
structure IsFresh (start : World) (calls : List StoreCall) : Prop where
  distinct : (newDigests calls).Nodup
  unstored : ∀ digest ∈ newDigests calls, start.record? digest = none

theorem newDigests_cons_of_none {request : StoreCall} (adds : request.created? = none) (calls : List StoreCall) :
    newDigests (request :: calls) = newDigests calls := by
  rw [newDigests, List.filterMap_cons_none adds]
  rfl

theorem newDigests_cons_create (token : NewRefreshToken) (calls : List StoreCall) :
    newDigests (.tokens (.create token) :: calls) = token.digest :: newDigests calls :=
  rfl

theorem newDigests_sublist {earlier calls : List StoreCall} (suffix : earlier <:+ calls) :
    (newDigests earlier).Sublist (newDigests calls) :=
  (suffix.sublist.filterMap _).map _

/-- What is done to one record and what is kept of it may change places, unless a record is created. -/
theorem TokenCall.effect_filter {call : TokenCall} (adds : StoreCall.created? (.tokens call) = none) (now : Instant)
    (digest : String) (found : Option RefreshToken) (keep : RefreshToken -> Bool) :
    (call.effect now digest found).filter keep = call.effect now digest (found.filter keep) := by
  cases call with
  | create token => cases adds
  | find sought => rfl
  | deleteByToken gone =>
    simp only [effect]
    split <;> rfl
  | _ => simp only [effect, Option.filter_filter, Bool.and_comm]

theorem RefreshToken.isExpiredAt_later (record : RefreshToken) {now later : Instant}
    (forward : now.nanoseconds ≤ later.nanoseconds) (expired : record.isExpiredAt now = true) :
    record.isExpiredAt later = true := by
  simp only [isExpiredAt, Instant.reached, decide_eq_true_eq] at expired ⊢
  exact Int.le_trans expired forward

namespace World

/-- The record of a digest, unless it is dead. -/
def living? (world : World) (digest : String) : Option RefreshToken :=
  (world.record? digest).filter fun record => !record.isExpiredAt world.now

variable {world : World}

theorem record?_of_living? {digest : String} {record : RefreshToken} (alive : world.living? digest = some record) :
    world.record? digest = some record :=
  (Option.filter_eq_some_iff.mp alive).1

theorem living?_answer {call : TokenCall} (adds : StoreCall.created? (.tokens call) = none) (digest : String) :
    (world.answer (.tokens call)).2.living? digest = call.effect world.now digest (world.living? digest) := by
  unfold living?
  rw [record?_answer]
  exact TokenCall.effect_filter adds _ _ _ _

/-- Nothing but a creation adds a token. -/
theorem record?_answer_of_none {call : TokenCall} (adds : StoreCall.created? (.tokens call) = none) {digest : String}
    (absent : world.record? digest = none) : (world.answer (.tokens call)).2.record? digest = none := by
  rw [record?_answer, absent]
  cases call with
  | create token => cases adds
  | deleteByToken gone => exact ite_self none
  | _ => rfl

theorem record?_create {token : NewRefreshToken} (free : world.record? token.digest = none) (digest : String) :
    (world.answer (.tokens (.create token))).2.record? digest =
      if token.digest = digest then some ⟨token.digest, token.userId, token.appId, token.expiresAt, world.now⟩
      else world.record? digest := by
  rw [record?_answer]
  split
  · next same =>
    subst same
    rw [free]
    exact if_pos rfl
  · next different =>
    cases world.record? digest with
    | none => exact if_neg different
    | some record => rfl

theorem answer_create {token : NewRefreshToken} (free : world.record? token.digest = none) :
    (world.answer (.tokens (.create token))).1 = .ok () :=
  Option.some.inj (world.create_reply token free)

/-- A token that is there is counted when it is removed. -/
theorem answer_deleteByToken {digest : String} {record : RefreshToken}
    (stored : world.record? digest = some record) :
    (world.answer (.tokens (.deleteByToken digest))).1 = .ok 1 := by
  have replied := world.deleteByToken_reply digest .carriedOut
  rw [stored] at replied
  exact Option.some.inj replied

theorem living?_create {token : NewRefreshToken} (free : world.record? token.digest = none) (digest : String) :
    (world.answer (.tokens (.create token))).2.living? digest =
      if token.digest = digest then
        (some ⟨token.digest, token.userId, token.appId, token.expiresAt, world.now⟩).filter
          fun record => !RefreshToken.isExpiredAt record world.now
      else world.living? digest := by
  unfold living?
  rw [record?_create free]
  split <;> rfl

/-- What is dead now is dead at any later time. -/
theorem living?_later {later : Instant} (forward : world.now.nanoseconds ≤ later.nanoseconds) (digest : String) :
    living? { world with now := later } digest =
      (world.living? digest).filter fun record => !record.isExpiredAt later := by
  unfold living?
  rw [Option.filter_filter]
  refine congrArg (fun keep => (world.record? digest).filter keep) (funext fun record => ?_)
  cases expired : record.isExpiredAt world.now with
  | false => rfl
  | true => rw [record.isExpiredAt_later forward expired, Bool.not_true, Bool.and_self]

end World

/-- Two passages that differ in dead refresh tokens, and in the calls and the
counts that come from them.  Everything that is stored was stored at the start
or created by the calls of the first. -/
structure Alike (start : World) (passage other : Passage) : Prop where
  now_eq : passage.world.now = other.world.now
  entropy_eq : passage.world.entropy = other.world.entropy
  draws_eq : passage.world.draws = other.world.draws
  credentials_eq : passage.world.stores.credentials = other.world.stores.credentials
  living_eq : forall digest, passage.world.living? digest = other.world.living? digest
  known : forall digest, start.record? digest = none -> digest ∉ newDigests passage.calls ->
    passage.world.record? digest = none ∧ other.world.record? digest = none

namespace Alike

variable {start : World} {passage other : Passage}

theorem refl (world : World) : Alike world ⟨world, []⟩ ⟨world, []⟩ :=
  ⟨rfl, rfl, rfl, rfl, fun _ => rfl, fun _ unstored _ => ⟨unstored, unstored⟩⟩

variable (alike : Alike start passage other)

include alike

/-- A token that is created next has a digest that is not stored. -/
theorem free {log : List StoreCall} (fresh : IsFresh start log) {token : NewRefreshToken}
    (next : (passage.after (.tokens (.create token))).calls <:+ log) :
    passage.world.record? token.digest = none ∧ other.world.record? token.digest = none := by
  have created := newDigests_sublist next
  rw [Passage.after, newDigests_cons_create] at created
  exact alike.known token.digest (fresh.unstored _ (created.subset List.mem_cons_self))
    (List.nodup_cons.mp (fresh.distinct.sublist created)).1

theorem credentials (call : CredentialCall) :
    (passage.world.answer (.credentials call)).1 = (other.world.answer (.credentials call)).1 ∧
      Alike start (passage.after (.credentials call)) (other.after (.credentials call)) := by
  have answered : passage.world.stores.credentials.answer passage.world.now call =
      other.world.stores.credentials.answer other.world.now call := by
    rw [alike.credentials_eq, alike.now_eq]
  have replied : (passage.world.stores.credentials.answer passage.world.now call).1 =
      (other.world.stores.credentials.answer other.world.now call).1 := congrArg Prod.fst answered
  exact ⟨replied, alike.now_eq, alike.entropy_eq, alike.draws_eq, congrArg Prod.snd answered, alike.living_eq,
    alike.known⟩

/-- A call that creates no token keeps the living tokens the same. -/
theorem tokens {call : TokenCall} (adds : StoreCall.created? (.tokens call) = none) :
    Alike start (passage.after (.tokens call)) (other.after (.tokens call)) := by
  refine ⟨alike.now_eq, alike.entropy_eq, alike.draws_eq, alike.credentials_eq, fun digest => ?_,
    fun digest unstored uncreated => ?_⟩
  · refine (World.living?_answer adds digest).trans (Eq.trans ?_ (World.living?_answer adds digest).symm)
    rw [alike.living_eq, alike.now_eq]
  · rw [Passage.after, newDigests_cons_of_none adds] at uncreated
    have absent := alike.known digest unstored uncreated
    exact ⟨World.record?_answer_of_none adds absent.1, World.record?_answer_of_none adds absent.2⟩

/-- A new token is stored in both. -/
theorem create {token : NewRefreshToken} (first : passage.world.record? token.digest = none)
    (second : other.world.record? token.digest = none) :
    Alike start (passage.after (.tokens (.create token))) (other.after (.tokens (.create token))) := by
  refine ⟨alike.now_eq, alike.entropy_eq, alike.draws_eq, alike.credentials_eq, fun digest => ?_,
    fun digest unstored uncreated => ?_⟩
  · refine (World.living?_create first digest).trans (Eq.trans ?_ (World.living?_create second digest).symm)
    rw [alike.now_eq, alike.living_eq]
  · rw [Passage.after, newDigests_cons_create, List.mem_cons, not_or] at uncreated
    have absent := alike.known digest unstored uncreated.2
    show (passage.world.answer (.tokens (.create token))).2.record? digest = none ∧
      (other.world.answer (.tokens (.create token))).2.record? digest = none
    rw [World.record?_create first, World.record?_create second, if_neg (Ne.symm uncreated.1),
      if_neg (Ne.symm uncreated.1)]
    exact absent

/-- A call may be made in the first passage alone if it takes away no living token. -/
theorem left {call : TokenCall} (adds : StoreCall.created? (.tokens call) = none)
    (same : forall digest, (passage.after (.tokens call)).world.living? digest = passage.world.living? digest) :
    Alike start (passage.after (.tokens call)) other := by
  refine ⟨alike.now_eq, alike.entropy_eq, alike.draws_eq, alike.credentials_eq,
    fun digest => (same digest).trans (alike.living_eq digest), fun digest unstored uncreated => ?_⟩
  rw [Passage.after, newDigests_cons_of_none adds] at uncreated
  have absent := alike.known digest unstored uncreated
  exact ⟨World.record?_answer_of_none adds absent.1, absent.2⟩

theorem right {call : TokenCall} (adds : StoreCall.created? (.tokens call) = none)
    (same : forall digest, (other.after (.tokens call)).world.living? digest = other.world.living? digest) :
    Alike start passage (other.after (.tokens call)) := by
  refine ⟨alike.now_eq, alike.entropy_eq, alike.draws_eq, alike.credentials_eq,
    fun digest => (alike.living_eq digest).trans (same digest).symm, fun digest unstored uncreated => ?_⟩
  have absent := alike.known digest unstored uncreated
  exact ⟨absent.1, World.record?_answer_of_none adds absent.2⟩

/-- Time makes no living token of a dead one. -/
theorem atTime {later : Instant} (forward : passage.world.now.nanoseconds ≤ later.nanoseconds) :
    Alike start (passage.atTime later) (other.atTime later) := by
  refine ⟨rfl, alike.entropy_eq, alike.draws_eq, alike.credentials_eq, fun digest => ?_, alike.known⟩
  have behind : other.world.now.nanoseconds ≤ later.nanoseconds := alike.now_eq ▸ forward
  refine (World.living?_later forward digest).trans (Eq.trans ?_ (World.living?_later behind digest).symm)
  rw [alike.living_eq]

theorem drawBytes (count : Nat) :
    (passage.world.drawBytes count).1 = (other.world.drawBytes count).1 ∧
      Alike start ⟨(passage.world.drawBytes count).2, passage.calls⟩
        ⟨(other.world.drawBytes count).2, other.calls⟩ := by
  refine ⟨?_, alike.now_eq, alike.entropy_eq, congrArg (· + 1) alike.draws_eq, alike.credentials_eq,
    alike.living_eq, alike.known⟩
  rw [World.drawBytes, World.drawBytes, alike.entropy_eq, alike.draws_eq]

end Alike

/-- A sweep takes away no living token. -/
theorem World.living?_deleteExpired (world : World) (digest : String) :
    (world.answer (.tokens (.deleteExpired world.now))).2.living? digest = world.living? digest := by
  rw [living?_answer rfl]
  simp only [TokenCall.effect, living?, Option.filter_filter, Bool.and_self]

/-- Neither does the removal of a token that is dead or not there. -/
theorem World.living?_deleteByToken {world : World} {gone : String} (dead : world.living? gone = none)
    (digest : String) :
    (world.answer (.tokens (.deleteByToken gone))).2.living? digest = world.living? digest := by
  rw [living?_answer rfl]
  simp only [TokenCall.effect]
  split
  · next same => rw [← same, dead]
  · rfl

/-! ## Alike on the way -/

/-- The next step of a journey is not due before now. -/
def Journey.IsPunctual (timetable : Timetable) (journey : Journey) : Prop :=
  journey.world.now.nanoseconds ≤ (journey.due timetable).nanoseconds

namespace Journey.IsPunctual

variable {timetable : Timetable} {journey : Journey} (punctual : journey.IsPunctual timetable)

include punctual

theorem le_finish : journey.world.now.nanoseconds ≤ journey.departure.nanoseconds + timetable.finish :=
  Int.le_trans punctual (Int.add_le_add_left (Int.ofNat_le.mpr (timetable.within _)) _)

theorem le_due_tick : journey.world.now.nanoseconds ≤ ((journey.tick timetable).due timetable).nanoseconds :=
  Int.le_trans punctual (Int.add_le_add_left (Int.ofNat_le.mpr (timetable.forward _)) _)

/-- What is dead on the way is dead in the end. -/
theorem living?_arrive {digest : String} (dead : journey.world.living? digest = none) :
    (journey.arrive timetable).world.living? digest = none := by
  refine (World.living?_later punctual.le_finish digest).trans ?_
  rw [dead]
  rfl

end Journey.IsPunctual

/-- Two journeys along one timetable, alike so far. -/
structure Alike.Underway (timetable : Timetable) (start : World) (journey other : Journey) : Prop extends
    Alike start journey.toPassage other.toPassage where
  departure_eq : journey.departure = other.departure
  steps_eq : journey.steps = other.steps
  punctual : journey.IsPunctual timetable

/-- Two journeys that will be alike when their runs have ended. -/
def Alike.Arrived (timetable : Timetable) (start : World) (journey other : Journey) : Prop :=
  Alike start (journey.arrive timetable) (other.arrive timetable)

theorem Alike.depart {start : World} {passage other : Passage} (alike : Alike start passage other)
    (timetable : Timetable) : Alike.Underway timetable start passage.depart other.depart :=
  ⟨alike, alike.now_eq, rfl, Int.le_add_of_nonneg_right (Int.natCast_nonneg _)⟩

namespace Alike.Underway

variable {timetable : Timetable} {start : World} {journey other : Journey}
  (alike : Alike.Underway timetable start journey other)

include alike

theorem due_eq : journey.due timetable = other.due timetable := by
  rw [Journey.due, Journey.due, alike.departure_eq, alike.steps_eq]

theorem tick : Alike.Underway timetable start (journey.tick timetable) (other.tick timetable) := by
  have later := alike.toAlike.atTime alike.punctual
  refine ⟨?_, alike.departure_eq, congrArg (· + 1) alike.steps_eq,
    Int.add_le_add_left (Int.ofNat_le.mpr (timetable.forward _)) _⟩
  rw [Journey.tick, Journey.tick, ← alike.due_eq]
  exact later

/-- What is alike on the way is alike in the end. -/
theorem arrived : Alike.Arrived timetable start journey other := by
  rw [Arrived, Journey.arrive, Journey.arrive, ← alike.departure_eq]
  exact alike.toAlike.atTime alike.punctual.le_finish

theorem punctual_other : other.IsPunctual timetable := by
  rw [Journey.IsPunctual, ← alike.now_eq, ← alike.due_eq]
  exact alike.punctual

theorem credentials (call : CredentialCall) :
    ((journey.tick timetable).world.answer (.credentials call)).1 =
        ((other.tick timetable).world.answer (.credentials call)).1 ∧
      Alike.Underway timetable start ((journey.tick timetable).after (.credentials call))
        ((other.tick timetable).after (.credentials call)) := by
  have ticked := alike.tick
  rcases ticked.toAlike.credentials call with ⟨replied, after⟩
  exact ⟨replied, after, ticked.departure_eq, ticked.steps_eq, ticked.punctual⟩

theorem tokens {call : TokenCall} (adds : StoreCall.created? (.tokens call) = none) :
    Alike.Underway timetable start ((journey.tick timetable).after (.tokens call))
      ((other.tick timetable).after (.tokens call)) :=
  ⟨alike.tick.toAlike.tokens adds, alike.departure_eq, alike.tick.steps_eq, alike.tick.punctual⟩

theorem create {token : NewRefreshToken} (first : journey.world.record? token.digest = none)
    (second : other.world.record? token.digest = none) :
    Alike.Underway timetable start ((journey.tick timetable).after (.tokens (.create token)))
      ((other.tick timetable).after (.tokens (.create token))) :=
  ⟨alike.tick.toAlike.create first second, alike.departure_eq, alike.tick.steps_eq, alike.tick.punctual⟩

theorem drawBytes (count : Nat) :
    (journey.world.drawBytes count).1 = (other.world.drawBytes count).1 ∧
      Alike.Underway timetable start { journey with world := (journey.world.drawBytes count).2 }
        { other with world := (other.world.drawBytes count).2 } := by
  rcases alike.toAlike.drawBytes count with ⟨drawn, after⟩
  exact ⟨drawn, after, alike.departure_eq, alike.steps_eq, alike.punctual⟩

end Alike.Underway

/-! ## Programs that do not look at refresh tokens -/

/-- Two journeys that are alike, each with the refresh tokens of another one. -/
structure Alike.Keeping (timetable : Timetable) (start : World) (before beyond journey other : Journey) : Prop extends
    Alike.Underway timetable start journey other where
  tokens_eq : journey.world.stores.tokens = before.world.stores.tokens
  beyond_eq : other.world.stores.tokens = beyond.world.stores.tokens

/-- A program that calls the store of users, apps and grants alone has the
same result on both journeys, and leaves the refresh tokens as they are. -/
theorem Program.inStep_of_callsOnly {α : Type} {program : Program α} {timetable : Timetable} {start : World}
    {log : List StoreCall} {before beyond journey other : Journey}
    (only : program.CallsOnly StoreCall.IsCredential)
    (alike : Alike.Keeping timetable start before beyond journey other) :
    InStep timetable log (Equally (Alike.Keeping timetable start before beyond)) program program journey other := by
  induction program generalizing journey other with
  | done result => exact fun _ => ⟨rfl, alike⟩
  | call patience request next hypothesis =>
    rcases request with call | call
    · rcases alike.toUnderway.credentials call with ⟨replied, after⟩
      have rest := hypothesis (some ((journey.tick timetable).world.answer (.credentials call)).1) (only.2 _)
        ⟨after, alike.tokens_eq, alike.beyond_eq⟩
      unfold InStep at rest ⊢
      rw [runAlong_call, runAlong_call, ← replied]
      exact rest
    · exact False.elim only.1
  | clock next hypothesis =>
    have rest := hypothesis (journey.due timetable) (only _)
      ⟨alike.toUnderway.tick, alike.tokens_eq, alike.beyond_eq⟩
    unfold InStep at rest ⊢
    rw [runAlong_clock, runAlong_clock, ← alike.due_eq]
    exact rest
  | draw count next hypothesis =>
    rcases alike.toUnderway.drawBytes count with ⟨drawn, after⟩
    have rest := hypothesis (journey.world.drawBytes count).1 (only _)
      ⟨after, alike.tokens_eq, alike.beyond_eq⟩
    unfold InStep at rest ⊢
    rw [runAlong_draw, runAlong_draw, ← drawn]
    exact rest

end SingleSignOn

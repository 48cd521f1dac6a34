import SingleSignOn.Proofs.RefreshToken.Living
import SingleSignOn.Proofs.Service.Outcome

namespace SingleSignOn

/-!
# Operations that do not notice dead tokens

On two journeys that differ in dead refresh tokens, each operation ends with
the same answer.  Most operations do not look at refresh tokens at all.  Of
the others, a refresh rejects a dead token as it rejects one that it does not
find, and deletions of several tokens are not told how many there were.  Only
a logout tells whether there was a token.
-/

section

variable {ε φ α β : Type} {timetable : Timetable} {start : World} {log : List StoreCall}

/-- A program that may fail ends with the same result on any two journeys that are alike. -/
def Oblivious (timetable : Timetable) (start : World) (log : List StoreCall) (program : ExceptT ε Program α) : Prop :=
  forall journey other, Alike.Underway timetable start journey other ->
    TryInStep timetable log (Alike.Arrived timetable start) (Equally (Alike.Underway timetable start))
      program program journey other

theorem oblivious_pure (value : α) : Oblivious timetable start log (pure value : ExceptT ε Program α) :=
  fun _ _ alike => tryInStep_pure ⟨rfl, alike⟩

theorem oblivious_throw (error : ε) : Oblivious timetable start log (throw error : ExceptT ε Program α) :=
  fun _ _ alike => tryInStep_throw alike.arrived error

/-- The rest of a program may be told different things, as long as it goes on the same. -/
theorem TryInStep.bind_oblivious {post : α -> Journey -> α -> Journey -> Prop} {first : ExceptT ε Program α}
    {continuation : α -> ExceptT ε Program β} {journey other : Journey}
    (inStep : TryInStep timetable log (Alike.Arrived timetable start) post first first journey other)
    (rest : forall value later found further, post value later found further ->
      continuation value = continuation found ∧ Alike.Underway timetable start later further ∧
        Oblivious timetable start log (continuation value)) :
    TryInStep timetable log (Alike.Arrived timetable start) (Equally (Alike.Underway timetable start))
      (first >>= continuation) (first >>= continuation) journey other := by
  refine inStep.bind fun value later found further ends => ?_
  rcases rest value later found further ends with ⟨same, alike, oblivious⟩
  rw [← same]
  exact oblivious later further alike

namespace Oblivious

theorem bind {first : ExceptT ε Program α} {continuation : α -> ExceptT ε Program β}
    (oblivious : Oblivious timetable start log first)
    (rest : forall value, Oblivious timetable start log (continuation value)) :
    Oblivious timetable start log (first >>= continuation) :=
  fun journey other alike => (oblivious journey other alike).bind_oblivious fun value _ _ _ ends =>
    ⟨congrArg continuation ends.1, ends.2, rest value⟩

theorem adapt {program : ExceptT ε Program α} (oblivious : Oblivious timetable start log program) (tell : ε -> φ) :
    Oblivious timetable start log (program.adapt tell) :=
  fun journey other alike => (oblivious journey other alike).adapt tell

end Oblivious

/-- A program that does not look at refresh tokens leaves them as they are. -/
theorem tryInStep_keeping {program : ExceptT ε Program α} (only : program.run.CallsOnly StoreCall.IsCredential)
    {before beyond journey other : Journey} (alike : Alike.Keeping timetable start before beyond journey other) :
    TryInStep timetable log (Alike.Arrived timetable start) (Equally (Alike.Keeping timetable start before beyond))
      program program journey other := by
  refine (Program.inStep_of_callsOnly only alike).mono fun result later answer further ends => ?_
  rcases ends with ⟨rfl, kept⟩
  cases result with
  | ok value => exact ⟨rfl, kept⟩
  | error error => exact ⟨rfl, kept.arrived⟩

theorem oblivious_of_callsOnly {program : ExceptT ε Program α}
    (only : program.run.CallsOnly StoreCall.IsCredential) : Oblivious timetable start log program :=
  fun _ _ alike => (tryInStep_keeping only ⟨alike, rfl, rfl⟩).mono fun _ _ _ _ ends => ⟨ends.1, ends.2.toUnderway⟩

end

namespace Service

variable {service : Service} {timetable : Timetable} {start : World} {log : List StoreCall}

theorem callsOnly_credentials (service : Service) (request : CredentialCall) :
    (service.credentials request).CallsOnly StoreCall.IsCredential :=
  Operation.callsOnly_call service.auth.storeTimeout trivial

theorem oblivious_credentials (request : CredentialCall) :
    Oblivious timetable start log (service.credentials request) :=
  oblivious_of_callsOnly (service.callsOnly_credentials request)

/-! ## Calls to the store of refresh tokens -/

section

variable {journey other : Journey} (alike : Alike.Underway timetable start journey other)

include alike

/-- A call that creates no token is answered, though not with the same count. -/
theorem tryInStep_tokens {call : TokenCall} (adds : StoreCall.created? (.tokens call) = none) :
    TryInStep timetable log (Alike.Arrived timetable start)
      (fun _ later _ further => Alike.Underway timetable start later further)
      (service.tokens call) (service.tokens call) journey other := by
  intro kept
  have after := alike.tokens adds
  cases call with
  | create token => cases adds
  | _ => exact after

theorem tryInStep_attempt {call : TokenCall} (adds : StoreCall.created? (.tokens call) = none) :
    TryInStep timetable log (Alike.Arrived timetable start)
      (fun answer later reply further => Alike.Underway timetable start later further ∧
        answer = ((journey.tick timetable).world.answer (.tokens call)).1 ∧
          reply = ((other.tick timetable).world.answer (.tokens call)).1)
      (service.attempt (.tokens call)) (service.attempt (.tokens call)) journey other :=
  fun _ => ⟨alike.tokens adds, rfl, rfl⟩

/-- Found is what is alive. -/
theorem tryInStep_find {digest : String} {record : RefreshToken}
    (alive : journey.world.living? digest = some record) :
    TryInStep timetable log (Alike.Arrived timetable start)
      (fun found later again further => found = some record ∧ again = some record ∧
        Alike.Underway timetable start later further ∧
        later.world.record? digest = some record ∧ further.world.record? digest = some record)
      (service.tokens (.find digest)) (service.tokens (.find digest)) journey other := by
  intro kept
  have here := World.record?_of_living? alive
  have there := World.record?_of_living? ((alike.living_eq digest).symm.trans alive)
  have after : Alike.Underway timetable start ((journey.tick timetable).after (.tokens (.find digest)))
      ((other.tick timetable).after (.tokens (.find digest))) := alike.tokens rfl
  exact ⟨here, there, after, here, there⟩

/-- A new token is stored, and what was stored before still is. -/
theorem tryInStep_create (fresh : IsFresh start log) (token : NewRefreshToken) :
    TryInStep timetable log (Alike.Arrived timetable start)
      (fun _ later _ further => Alike.Underway timetable start later further ∧ forall digest record,
        journey.world.record? digest = some record -> other.world.record? digest = some record ->
        later.world.record? digest = some record ∧ further.world.record? digest = some record)
      (service.tokens (.create token)) (service.tokens (.create token)) journey other := by
  intro kept
  rcases alike.free fresh kept with ⟨here, there⟩
  have first : (journey.tick timetable).world.record? token.digest = none := here
  have second : (other.tick timetable).world.record? token.digest = none := there
  have stays (world : World) (free : world.record? token.digest = none) (digest : String) (record : RefreshToken)
      (stored : world.record? digest = some record) :
      (world.answer (.tokens (.create token))).2.record? digest = some record := by
    refine (World.record?_create free digest).trans ((if_neg fun same => ?_).trans stored)
    rw [same, stored] at free
    cases free
  show EndAlike _ _ ((journey.tick timetable).world.answer (.tokens (.create token))).1
    ((journey.tick timetable).after (.tokens (.create token)))
    ((other.tick timetable).world.answer (.tokens (.create token))).1
    ((other.tick timetable).after (.tokens (.create token)))
  rw [World.answer_create first, World.answer_create second]
  exact ⟨alike.create here there, fun digest record before beyond =>
    ⟨stays _ first digest record before, stays _ second digest record beyond⟩⟩

end

/-- What is told of a deletion is not looked at. -/
theorem oblivious_tokens_bind {α : Type} {call : TokenCall} (adds : StoreCall.created? (.tokens call) = none)
    {rest : Operation α} (oblivious : Oblivious timetable start log rest) :
    Oblivious timetable start log (service.tokens call >>= fun _ => rest) :=
  fun _ _ alike => (tryInStep_tokens alike adds).bind_oblivious fun _ _ _ _ after => ⟨rfl, after, oblivious⟩

/-! ## Sessions -/

theorem oblivious_login (fresh : IsFresh start log) (email password : String) (appId : AppId) :
    Oblivious timetable start log (service.login email password appId) := by
  unfold Service.login
  refine (oblivious_credentials _).bind fun found => ?_
  rcases found with _ | user
  · exact oblivious_throw _
  dsimp only
  split
  · exact oblivious_throw _
  refine (oblivious_of_callsOnly (service.callsOnly_activeApp trivial)).bind fun found => ?_
  rcases found with _ | app
  · exact oblivious_throw _
  refine (oblivious_credentials _).bind fun isAdmin => ?_
  refine (oblivious_of_callsOnly (service.callsOnly_issueSession user app isAdmin)).bind fun issued => ?_
  refine oblivious_tokens_bind rfl fun _ _ alike => ?_
  exact (tryInStep_create alike fresh issued.2).bind_oblivious fun _ _ _ _ created =>
    ⟨rfl, created.1, oblivious_pure _⟩

/-- A refresh with a token that is dead or not there is rejected, after a
look-up and perhaps a removal of that token. -/
theorem runAlong_refresh_of_dead {token : String} {journey : Journey}
    (punctual : journey.IsPunctual timetable)
    (dead : journey.world.living? (service.tokenDigest token) = none) :
    ∃ later, Program.runAlong timetable (service.refresh token).run journey = (.error .invalidCredentials, later) ∧
      (later.arrive timetable = (journey.arrive timetable).after (.tokens (.find (service.tokenDigest token))) ∨
        later.arrive timetable =
          ((journey.arrive timetable).after (.tokens (.find (service.tokenDigest token)))).after
            (.tokens (.deleteByToken (service.tokenDigest token)))) := by
  unfold Service.refresh
  rw [Operation.runAlong_bind]
  have found : Program.runAlong timetable (service.tokens (.find (service.tokenDigest token))).run journey =
      (.ok (journey.world.record? (service.tokenDigest token)),
        (journey.tick timetable).after (.tokens (.find (service.tokenDigest token)))) := rfl
  rw [found]
  unfold World.living? at dead
  cases stored : journey.world.record? (service.tokenDigest token) with
  | none => exact ⟨_, rfl, .inl rfl⟩
  | some record =>
    rw [stored] at dead
    have expired : record.isExpiredAt journey.world.now = true := by
      simpa using (Option.filter_eq_none_iff.mp dead) record rfl
    dsimp only
    rw [Operation.runAlong_bind]
    have clock : Program.runAlong timetable (Operation.ofProgram Program.now).run
        ((journey.tick timetable).after (.tokens (.find (service.tokenDigest token)))) =
        (.ok ((journey.tick timetable).due timetable),
          ((journey.tick timetable).after (.tokens (.find (service.tokenDigest token)))).tick timetable) := rfl
    rw [clock]
    dsimp only
    rw [if_pos (record.isExpiredAt_later punctual.le_due_tick expired)]
    exact ⟨_, rfl, .inr rfl⟩

theorem oblivious_refresh (fresh : IsFresh start log) (token : String) :
    Oblivious timetable start log (service.refresh token) := by
  intro journey other alike
  cases alive : journey.world.living? (service.tokenDigest token) with
  | none =>
    intro kept
    have dead := (alike.living_eq (service.tokenDigest token)).symm.trans alive
    rcases runAlong_refresh_of_dead alike.punctual alive with ⟨later, ran, ends⟩
    rcases runAlong_refresh_of_dead alike.punctual_other dead with ⟨further, reran, reends⟩
    rw [ran, reran]
    have looked : Alike start ((journey.arrive timetable).after (.tokens (.find (service.tokenDigest token))))
        ((other.arrive timetable).after (.tokens (.find (service.tokenDigest token)))) := alike.arrived.tokens rfl
    have left : Alike start (later.arrive timetable)
        ((other.arrive timetable).after (.tokens (.find (service.tokenDigest token)))) := by
      rcases ends with ends | ends
      · rw [ends]
        exact looked
      · rw [ends]
        exact looked.left rfl (World.living?_deleteByToken (alike.punctual.living?_arrive alive))
    have right : Alike start (later.arrive timetable) (further.arrive timetable) := by
      rcases reends with reends | reends
      · rw [reends]
        exact left
      · rw [reends]
        exact left.right rfl (World.living?_deleteByToken (alike.punctual_other.living?_arrive dead))
    exact ⟨rfl, right⟩
  | some stored =>
    unfold Service.refresh
    refine (tryInStep_find alike alive).bind fun found first again second looked => ?_
    rcases looked with ⟨rfl, rfl, alike, here, there⟩
    dsimp only
    have reads : Operation.CallsOnly StoreCall.IsCredential (Operation.ofProgram Program.now) :=
      Operation.callsOnly_ofProgram fun _ => trivial
    have keeping : Alike.Keeping timetable start first second first second := ⟨alike, rfl, rfl⟩
    refine (tryInStep_keeping reads keeping).bind fun now _ _ _ told => ?_
    rcases told with ⟨rfl, keeping⟩
    split
    · exact (tryInStep_attempt keeping.toUnderway rfl).bind_oblivious fun _ _ _ _ after =>
        ⟨rfl, after.1, oblivious_throw _⟩
    refine (tryInStep_keeping (service.callsOnly_credentials _) keeping).bind fun found _ _ _ looked => ?_
    rcases looked with ⟨rfl, keeping⟩
    rcases found with _ | user
    · exact tryInStep_throw keeping.arrived _
    dsimp only
    refine (tryInStep_keeping (service.callsOnly_activeApp trivial) keeping).bind fun found _ _ _ looked => ?_
    rcases looked with ⟨rfl, keeping⟩
    rcases found with _ | app
    · exact tryInStep_throw keeping.arrived _
    dsimp only
    refine (tryInStep_keeping (service.callsOnly_credentials _) keeping).bind fun isAdmin _ _ _ looked => ?_
    rcases looked with ⟨rfl, keeping⟩
    refine (tryInStep_keeping (service.callsOnly_issueSession user app isAdmin) keeping).bind
      fun issued third _ fourth minted => ?_
    rcases minted with ⟨rfl, keeping⟩
    refine (tryInStep_create keeping.toUnderway fresh issued.2).bind fun _ fifth _ sixth created => ?_
    rcases created with ⟨alike, stays⟩
    -- The presented token was alive, so it is there in both and is counted.
    have still : (fifth.tick timetable).world.record? (service.tokenDigest token) = some stored ∧
        (sixth.tick timetable).world.record? (service.tokenDigest token) = some stored := by
      refine stays _ _ ?_ ?_
      · unfold World.record?
        rw [keeping.tokens_eq]
        exact here
      · unfold World.record?
        rw [keeping.beyond_eq]
        exact there
    refine (tryInStep_attempt alike rfl).bind fun answer _ reply _ removed => ?_
    rcases removed with ⟨alike, rfl, rfl⟩
    rw [World.answer_deleteByToken still.1, World.answer_deleteByToken still.2]
    exact tryInStep_pure ⟨rfl, alike⟩

theorem tryInStep_logout {journey other : Journey} (alike : Alike.Underway timetable start journey other)
    (token : String) :
    TryInStep timetable log (Alike.Arrived timetable start)
      (fun _ later _ further => Alike.Underway timetable start later further)
      (service.logout token) (service.logout token) journey other :=
  (tryInStep_tokens alike rfl).bind fun _ _ _ _ alike => tryInStep_pure alike

/-! ## Users and apps -/

/-- A deletion tells whether there was a record. -/
theorem oblivious_unless (found : Bool) (failure : Error) :
    Oblivious timetable start log (if (!found) = true then throw failure else pure () : Operation Unit) := by
  cases found with
  | false => exact oblivious_throw failure
  | true => exact oblivious_pure ()

theorem oblivious_deleteUser (userId : UserId) : Oblivious timetable start log (service.deleteUser userId) := by
  unfold Service.deleteUser
  refine oblivious_tokens_bind rfl ?_
  exact (oblivious_credentials _).bind fun found => oblivious_unless found _

theorem oblivious_deleteApp (appId : AppId) : Oblivious timetable start log (service.deleteApp appId) := by
  unfold Service.deleteApp
  refine oblivious_tokens_bind rfl ?_
  exact (oblivious_credentials _).bind fun found => oblivious_unless found _

theorem oblivious_applyUpdate (userId : UserId) (update : UserUpdate) :
    Oblivious timetable start log (service.applyUpdate userId update) := by
  unfold applyUpdate
  split
  · exact oblivious_of_callsOnly (service.callsOnly_userInfo trivial)
  refine (oblivious_credentials _).bind fun found => ?_
  refine (oblivious_of_callsOnly (Operation.callsOnly_orFail _ _)).bind fun user => ?_
  dsimp only
  split
  · exact oblivious_tokens_bind rfl (oblivious_pure user)
  · exact oblivious_pure user

theorem oblivious_updateUser (userId : UserId) (change : ProfileChange) :
    Oblivious timetable start log (service.updateUser userId change) := by
  unfold Service.updateUser
  dsimp only
  split
  · exact oblivious_throw _
  split
  · exact oblivious_throw _
  cases change.password with
  | none => exact oblivious_applyUpdate userId ⟨change.email, none, change.profile⟩
  | some password =>
    have hashes : Operation.CallsOnly StoreCall.IsCredential (Operation.ofProgram (service.hashPassword password)) :=
      Operation.callsOnly_ofProgram fun _ => trivial
    exact (oblivious_of_callsOnly hashes).bind fun hash =>
      oblivious_applyUpdate userId ⟨change.email, some hash, change.profile⟩

/-- A call about users, apps and grants alone. -/
theorem oblivious_of_leavesTokens (call : ServiceCall) (leaves : call.leavesTokens = true) :
    Oblivious timetable start log (service.operation call) :=
  oblivious_of_callsOnly (ServiceCall.callsOnly_of_leavesTokens service leaves)

end Service

end SingleSignOn

import SingleSignOn.Proofs.Service.Opening
import SingleSignOn.Proofs.Service.Outcome

namespace SingleSignOn

/-!
# Operations whose store calls fail

A call that fails, or takes too long, and is not carried out leaves the
stores as they are, and the operation hears of it.  An operation is taken
apart at its store calls: it fails with a part, or goes on with the value of
the part.  Until the first call that changes a store, a failure at any point
leaves both stores alone.
-/

namespace Mishaps

/-- A call that fails is not carried out: no count is reported wrong. -/
def Truthful (mishaps : Mishaps) : Prop :=
  forall number, mishaps number ≠ some .miscount

/-- Whether a call of a run is carried out, by its number. -/
def carriesOut (limit : Nat) (mishaps : Mishaps) (number : Nat) : Bool :=
  (Course.under (some limit) (mishaps number)).ending.isEffective

theorem Truthful.ending_ne {mishaps : Mishaps} (truthful : mishaps.Truthful) (limit number : Nat) :
    (Course.under (some limit) (mishaps number)).ending ≠ .miscounted := by
  have counted := truthful number
  cases met : mishaps number with
  | none => nofun
  | some fault =>
    rw [met] at counted
    cases fault with
    | refusal error => nofun
    | silence => nofun
    | miscount => exact absurd rfl counted
    | delay milliseconds =>
      unfold Course.under
      dsimp only
      split <;> nofun

/-- One call meets a fault, and does not count wrong. -/
theorem truthful_of_one (fault : Fault) (counted : fault ≠ .miscount) (place : Nat) :
    Truthful fun number => if number = place then some fault else none := by
  intro number
  dsimp only
  split
  · exact fun same => counted (Option.some.inj same)
  · nofun

end Mishaps

/-- How a call can end in a run whose mishaps are truthful: it is carried out, or
fails and changes nothing. -/
def Passage.Ends (limit : Nat) (mishaps : Mishaps) (passage : Passage) (request : StoreCall)
    (reply : Except Error request.Reply) (later : Passage) : Prop :=
  (mishaps.carriesOut limit passage.calls.length = true ∧ reply = (passage.world.answer request).1 ∧
      later = ⟨(passage.world.answer request).2, request :: passage.calls⟩) ∨
    (mishaps.carriesOut limit passage.calls.length = false ∧ (∃ error, reply = .error error) ∧
      later = ⟨passage.world, request :: passage.calls⟩)

theorem Program.runUnder_bounded_ends {mishaps : Mishaps} (truthful : mishaps.Truthful) (limit : Nat)
    (request : StoreCall) (passage : Passage) :
    passage.Ends limit mishaps request ((bounded limit request).runUnder mishaps passage).1
      ((bounded limit request).runUnder mishaps passage).2 := by
  rw [runUnder_bounded]
  unfold Passage.answer
  dsimp only
  have counted := truthful.ending_ne limit passage.calls.length
  cases ends : (Course.under (some limit) (mishaps passage.calls.length)).ending with
  | refused error => exact .inr ⟨congrArg Ending.isEffective ends, ⟨error, rfl⟩, rfl⟩
  | givenUp => exact .inr ⟨congrArg Ending.isEffective ends, ⟨.timeout, rfl⟩, rfl⟩
  | carriedOut => exact .inl ⟨congrArg Ending.isEffective ends, rfl, rfl⟩
  | miscounted => exact absurd ends counted

/-- A program that makes no store call does not notice any mishaps. -/
theorem Program.runUnder_of_callsNone {α : Type} {program : Program α} (only : program.CallsOnly fun _ => False)
    (mishaps : Mishaps) (passage : Passage) :
    program.runUnder mishaps passage =
      ((program.run passage.world).1, ⟨(program.run passage.world).2, passage.calls⟩) := by
  induction program generalizing passage with
  | done result => rfl
  | call patience request next hypothesis => exact only.1.elim
  | clock next hypothesis => exact hypothesis _ (only _) passage
  | draw count next hypothesis => exact hypothesis _ (only _) ⟨(passage.world.drawBytes count).2, passage.calls⟩

namespace Operation

variable {α β : Type} {mishaps : Mishaps} {passage later : Passage} {limit : Nat}

/-- A sequence fails with its first part, or goes on with its value. -/
theorem runUnder_bind_cases {operation : Operation α} {continuation : α -> Operation β} {answer : Except Error β}
    (done : Program.runUnder mishaps (operation >>= continuation).run passage = (answer, later)) :
    (∃ error, Program.runUnder mishaps operation.run passage = (.error error, later) ∧ answer = .error error) ∨
      ∃ value between, Program.runUnder mishaps operation.run passage = (.ok value, between) ∧
        Program.runUnder mishaps (continuation value).run between = (answer, later) := by
  rw [runUnder_bind] at done
  rcases first : Program.runUnder mishaps operation.run passage with ⟨error | value, between⟩
  · rw [first] at done
    cases done
    exact .inl ⟨error, rfl, rfl⟩
  · rw [first] at done
    exact .inr ⟨value, between, rfl, done⟩

theorem runUnder_call_ends (truthful : mishaps.Truthful) {request : StoreCall} {answer : Except Error request.Reply}
    (done : Program.runUnder mishaps (Operation.call limit request).run passage = (answer, later)) :
    passage.Ends limit mishaps request answer later := by
  have ends := Program.runUnder_bounded_ends truthful limit request passage
  rw [show Program.runUnder mishaps (Program.bounded limit request) passage = (answer, later) from done] at ends
  exact ends

/-- A sequence that begins with a store call: the call is not carried out, or
the stores refuse it, or the sequence goes on with their reply. -/
theorem runUnder_call_cases (truthful : mishaps.Truthful) {request : StoreCall}
    {continuation : request.Reply -> Operation β} {answer : Except Error β}
    (done : Program.runUnder mishaps (Operation.call limit request >>= continuation).run passage = (answer, later)) :
    ((∃ error, answer = .error error) ∧ later = ⟨passage.world, request :: passage.calls⟩) ∨
      (∃ error, (passage.world.answer request).1 = .error error ∧ answer = .error error ∧
        later = ⟨(passage.world.answer request).2, request :: passage.calls⟩) ∨
      ∃ reply, (passage.world.answer request).1 = .ok reply ∧
        Program.runUnder mishaps (continuation reply).run
          ⟨(passage.world.answer request).2, request :: passage.calls⟩ = (answer, later) := by
  rcases runUnder_bind_cases done with ⟨error, failed, rfl⟩ | ⟨reply, between, replied, goesOn⟩
  · rcases runUnder_call_ends truthful failed with ⟨_, refused, after⟩ | ⟨_, _, after⟩
    · exact .inr (.inl ⟨error, refused.symm, rfl, after⟩)
    · exact .inl ⟨⟨error, rfl⟩, after⟩
  · rcases runUnder_call_ends truthful replied with ⟨_, answered, rfl⟩ | ⟨_, ⟨_, impossible⟩, _⟩
    · exact .inr (.inr ⟨reply, answered.symm, goesOn⟩)
    · cases impossible

/-- A call that changes nothing fails, or has the reply of the stores. -/
theorem runUnder_reading_cases (truthful : mishaps.Truthful) {request : StoreCall}
    (reads : (passage.world.answer request).2 = passage.world) {continuation : request.Reply -> Operation β}
    {answer : Except Error β}
    (done : Program.runUnder mishaps (Operation.call limit request >>= continuation).run passage = (answer, later)) :
    ((∃ error, answer = .error error) ∧ later = ⟨passage.world, request :: passage.calls⟩) ∨
      ∃ found, (passage.world.answer request).1 = .ok found ∧
        Program.runUnder mishaps (continuation found).run ⟨passage.world, request :: passage.calls⟩ =
          (answer, later) := by
  have met := runUnder_call_cases truthful done
  rw [reads] at met
  rcases met with failed | ⟨error, _, refused, after⟩ | answered
  · exact .inl failed
  · exact .inl ⟨⟨error, refused⟩, after⟩
  · exact .inr answered

/-- A sequence that looks at the failure of its first store call goes on however that ends. -/
theorem runUnder_attempt_cases (truthful : mishaps.Truthful) {request : StoreCall}
    {continuation : Except Error request.Reply -> Operation β} {answer : Except Error β}
    (done : Program.runUnder mishaps (Operation.attempt limit request >>= continuation).run passage =
      (answer, later)) :
    ∃ reply between, passage.Ends limit mishaps request reply between ∧
      Program.runUnder mishaps (continuation reply).run between = (answer, later) := by
  have attempted : Program.runUnder mishaps (Operation.attempt limit request).run passage =
      (.ok ((Program.bounded limit request).runUnder mishaps passage).1,
        ((Program.bounded limit request).runUnder mishaps passage).2) :=
    Program.runUnder_bind mishaps (Program.bounded limit request)
      (fun reply => Program.done (Except.ok reply : Except Error (Except Error request.Reply))) passage
  rw [runUnder_bind, attempted] at done
  exact ⟨_, _, Program.runUnder_bounded_ends truthful limit request passage, done⟩

end Operation

namespace Service

variable {α : Type} {service : Service} {mishaps : Mishaps} {passage later : Passage} {answer : Except Error α}

/-- A look-up of a user, an app or a grant fails, or has the reply of the store. -/
theorem runUnder_lookup_cases (truthful : mishaps.Truthful) {request : CredentialCall}
    (looks : StoreCall.IsLookup (.credentials request)) {continuation : request.Reply -> Operation α}
    (done : Program.runUnder mishaps (service.credentials request >>= continuation).run passage = (answer, later)) :
    ((∃ error, answer = .error error) ∧ later = ⟨passage.world, .credentials request :: passage.calls⟩) ∨
      ∃ found, (passage.world.stores.credentials.answer passage.world.now request).1 = .ok found ∧
        Program.runUnder mishaps (continuation found).run
          ⟨passage.world, .credentials request :: passage.calls⟩ = (answer, later) :=
  Operation.runUnder_reading_cases truthful (congrArg (fun stores => { passage.world with stores := stores })
    (passage.world.stores.answer_of_isLookup passage.world.now looks)) done

/-- A call to the store of users, apps and grants fails and changes nothing, or is carried out and has a reply. -/
theorem runUnder_credentials_bind_cases (truthful : mishaps.Truthful) {request : CredentialCall}
    {continuation : request.Reply -> Operation α}
    (done : Program.runUnder mishaps (service.credentials request >>= continuation).run passage = (answer, later)) :
    ((∃ error, answer = .error error) ∧ later = ⟨passage.world, .credentials request :: passage.calls⟩) ∨
      ∃ reply credentials,
        passage.world.stores.credentials.answer passage.world.now request = (.ok reply, credentials) ∧
        Program.runUnder mishaps (continuation reply).run
          ⟨passage.world.withCredentials credentials, .credentials request :: passage.calls⟩ = (answer, later) := by
  have told : passage.world.answer (.credentials request) =
      ((passage.world.stores.credentials.answer passage.world.now request).1,
        passage.world.withCredentials (passage.world.stores.credentials.answer passage.world.now request).2) := rfl
  have met := Operation.runUnder_call_cases truthful done
  rw [told] at met
  rcases called : passage.world.stores.credentials.answer passage.world.now request with ⟨reply, credentials⟩
  rw [called] at met
  rcases met with failed | ⟨error, refused, failed, after⟩ | ⟨value, replied, goesOn⟩
  · exact .inl failed
  · cases refused
    rw [CredentialStore.answer_of_error called] at after
    exact .inl ⟨⟨error, failed⟩, after⟩
  · cases replied
    exact .inr ⟨value, credentials, rfl, goesOn⟩

/-- A look-up of a refresh token fails, or has the record of the store. -/
theorem runUnder_find_cases (truthful : mishaps.Truthful) {digest : String}
    {continuation : Option RefreshToken -> Operation α}
    (done : Program.runUnder mishaps (service.tokens (.find digest) >>= continuation).run passage =
      (answer, later)) :
    ((∃ error, answer = .error error) ∧ later = ⟨passage.world, .tokens (.find digest) :: passage.calls⟩) ∨
      Program.runUnder mishaps (continuation (passage.world.record? digest)).run
        ⟨passage.world, .tokens (.find digest) :: passage.calls⟩ = (answer, later) := by
  rcases Operation.runUnder_reading_cases truthful rfl done with failed | ⟨found, replied, goesOn⟩
  · exact .inl failed
  · cases replied
    exact .inr goesOn

/-- The look-up of an app that may be used fails, or has it if the store has. -/
theorem runUnder_activeApp_cases (truthful : mishaps.Truthful) {appId : AppId}
    {continuation : Option App -> Operation α}
    (done : Program.runUnder mishaps (service.activeApp appId >>= continuation).run passage = (answer, later)) :
    ((∃ error, answer = .error error) ∧
        later = ⟨passage.world, .credentials (.findAppById appId) :: passage.calls⟩) ∨
      Program.runUnder mishaps
          (continuation ((passage.world.stores.credentials.apps[appId]?).filter App.enabled)).run
          ⟨passage.world, .credentials (.findAppById appId) :: passage.calls⟩ = (answer, later) := by
  have looks : StoreCall.IsLookup (.credentials (.findAppById appId)) := trivial
  unfold Service.activeApp at done
  rw [bind_assoc] at done
  rcases runUnder_lookup_cases truthful looks done with failed | ⟨found, replied, goesOn⟩
  · exact .inl failed
  · cases replied
    exact .inr goesOn

theorem outcome_issueSession_of_unrepresentable (user : User) (app : App) (isAdmin : Bool) {world : World}
    (unrepresentable : AccessToken.expiry? service.auth.accessTokenLifetime world.now = none ∨
      service.refreshDeadline? world.now = none) :
    Operation.outcome (service.issueSession user app isAdmin) world = (.error .internal, world) := by
  unfold refreshDeadline? at unrepresentable
  unfold issueSession AccessToken.issue
  rw [Operation.outcome_bind, Operation.outcome_now]
  dsimp only
  cases access : AccessToken.expiry? service.auth.accessTokenLifetime world.now with
  | none => rfl
  | some expiresAt =>
    rcases unrepresentable with impossible | unrepresentable
    · cases impossible.symm.trans access
    · rw [unrepresentable]
      rfl

/-- A session is made without any store call, if both its expiries can be represented. -/
theorem runUnder_issueSession (user : User) (app : App) (isAdmin : Bool) :
    Program.runUnder mishaps (service.issueSession user app isAdmin).run passage = (.error .internal, passage) ∨
      ∃ expiresAt deadline, AccessToken.expiry? service.auth.accessTokenLifetime passage.world.now = some expiresAt ∧
        service.refreshDeadline? passage.world.now = some deadline ∧
        Program.runUnder mishaps (service.issueSession user app isAdmin).run passage =
          (.ok (service.sessionFor user app isAdmin passage.world.nextText expiresAt,
              service.recordFor user app passage.world.nextText deadline),
            ⟨(passage.world.drawBytes randomTextLength).2, passage.calls⟩) := by
  have alone : Program.runUnder mishaps (service.issueSession user app isAdmin).run passage =
      ((Operation.outcome (service.issueSession user app isAdmin) passage.world).1,
        ⟨(Operation.outcome (service.issueSession user app isAdmin) passage.world).2, passage.calls⟩) :=
    Program.runUnder_of_callsNone (service.callsOnly_issueSession user app isAdmin) mishaps passage
  rw [alone]
  cases access : AccessToken.expiry? service.auth.accessTokenLifetime passage.world.now with
  | none =>
    rw [service.outcome_issueSession_of_unrepresentable user app isAdmin (.inl access)]
    exact .inl rfl
  | some expiresAt =>
    cases refresh : service.refreshDeadline? passage.world.now with
    | none =>
      rw [service.outcome_issueSession_of_unrepresentable user app isAdmin (.inr refresh)]
      exact .inl rfl
    | some deadline =>
      rw [service.outcome_issueSession user app isAdmin access refresh]
      exact .inr ⟨expiresAt, deadline, rfl, rfl, rfl⟩

/-- What a session is opened on, once the user is known.  If that fails, it is
after a look-up, and the stores are as before. -/
theorem runUnder_opening_cases (truthful : mishaps.Truthful) {user : User} {appId : AppId}
    {answer : Except Error Session} {finish : App -> Session × NewRefreshToken -> Operation Session}
    (done : Program.runUnder mishaps (ExceptT.run do
      let some app ← service.activeApp appId | throw .invalidCredentials
      let isAdmin ← service.credentials (.isAdmin user.id app.id)
      let issued ← service.issueSession user app isAdmin
      finish app issued) passage = (answer, later)) :
    ((∃ error, answer = .error error) ∧ later.world.stores = passage.world.stores ∧
        ∃ request, later.calls.head? = some (.credentials request)) ∨
      ∃ app expiresAt deadline, passage.world.stores.credentials.apps[appId]? = some app ∧ app.enabled = true ∧
        service.refreshDeadline? passage.world.now = some deadline ∧
        Program.runUnder mishaps (finish app
          (service.sessionFor user app (passage.world.stores.credentials.isAdmin user.id app.id)
              passage.world.nextText expiresAt,
            service.recordFor user app passage.world.nextText deadline)).run
          ⟨(passage.world.drawBytes randomTextLength).2, .credentials (.isAdmin user.id app.id) ::
            .credentials (.findAppById appId) :: passage.calls⟩ = (answer, later) := by
  rcases runUnder_activeApp_cases truthful done with ⟨failed, rfl⟩ | done
  · exact .inl ⟨failed, rfl, _, rfl⟩
  cases found : (passage.world.stores.credentials.apps[appId]?).filter App.enabled with
  | none =>
    rw [found] at done
    cases done
    exact .inl ⟨⟨_, rfl⟩, rfl, _, rfl⟩
  | some app =>
    rw [found] at done
    rcases Option.filter_eq_some_iff.mp found with ⟨stored, enabled⟩
    have looks : StoreCall.IsLookup (.credentials (.isAdmin user.id app.id)) := trivial
    rcases runUnder_lookup_cases truthful looks done with ⟨failed, rfl⟩ | ⟨isAdmin, answered, done⟩
    · exact .inl ⟨failed, rfl, _, rfl⟩
    cases answered
    rw [Operation.runUnder_bind] at done
    rcases runUnder_issueSession user app _ with failed | ⟨expiresAt, deadline, _, refresh, issued⟩
    · rw [failed] at done
      cases done
      exact .inl ⟨⟨_, rfl⟩, rfl, _, rfl⟩
    · rw [issued] at done
      exact .inr ⟨app, expiresAt, deadline, stored, enabled, refresh, done⟩

end Service

end SingleSignOn

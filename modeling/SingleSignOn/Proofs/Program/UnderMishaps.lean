import SingleSignOn.Proofs.Program.Discipline
import SingleSignOn.Proofs.Program.Running

namespace SingleSignOn

/-!
# What mishaps cannot change

A store call that meets a mishap is carried out or it is not; there is no
third way.  So what every allowed call preserves is preserved by a run under
any mishaps, and a store call that is answered with success was carried out.
-/

namespace World

/-- A store call is carried out or changes nothing. -/
theorem endCall_cases (world : World) (request : StoreCall) (ending : Ending) :
    (world.endCall request ending).2 = world ∨
      (world.endCall request ending).2 = (world.answer request).2 := by
  cases ending with
  | refused error => exact .inl rfl
  | givenUp => exact .inl rfl
  | carriedOut => exact .inr rfl
  | miscounted => exact .inr rfl

end World

namespace Program

variable {α : Type} {program : Program α} {allowed : StoreCall -> Prop} (holds : Stores -> Prop)
  (only : program.CallsOnly allowed)
  (kept : forall stores now request, allowed request -> holds stores ->
    holds (Stores.answer stores now request).2)

include only kept

/-- What each allowed call preserves, a run preserves. -/
theorem runUnder_preserves (mishaps : Mishaps) (passage : Passage) (start : holds passage.world.stores) :
    holds (program.runUnder mishaps passage).2.world.stores := by
  induction program generalizing passage with
  | done result => exact start
  | call patience request next hypothesis =>
    let course := Course.under patience (mishaps passage.calls.length)
    have after : holds (passage.world.endCall request course.ending).2.stores := by
      rcases passage.world.endCall_cases request course.ending with same | same
      · rw [same]
        exact start
      · rw [same]
        exact kept passage.world.stores passage.world.now request only.1 start
    exact hypothesis _ (only.2 _) (passage.answer mishaps patience request).2 after
  | clock next hypothesis => exact hypothesis passage.world.now (only passage.world.now) passage start
  | draw count next hypothesis =>
    exact hypothesis _ (only _) ⟨(passage.world.drawBytes count).2, passage.calls⟩ start

theorem run_preserves (world : World) (start : holds world.stores) :
    holds (program.run world).2.stores := by
  rw [← (runUnder_nothing program ⟨world, []⟩).2]
  exact runUnder_preserves holds only kept Mishaps.nothing ⟨world, []⟩ start

end Program

namespace Operation

variable {α β : Type} {mishaps : Mishaps} {passage later : Passage}

/-- A sequence that succeeds has succeeded with each part. -/
theorem runUnder_bind_ok {operation : Operation α} {continuation : α -> Operation β} {value : β}
    (done : Program.runUnder mishaps (operation >>= continuation).run passage = (.ok value, later)) :
    ∃ first between, Program.runUnder mishaps operation.run passage = (.ok first, between) ∧
      Program.runUnder mishaps (continuation first).run between = (.ok value, later) := by
  rw [runUnder_bind] at done
  rcases ran : Program.runUnder mishaps operation.run passage with ⟨error | first, between⟩
  · rw [ran] at done
    cases done
  · rw [ran] at done
    exact ⟨first, between, rfl, done⟩

/-- An operation that fails unless something was found. -/
theorem runUnder_unless_cases {operation : Operation Bool} {failure : Error} {answer : Except Error Unit}
    (done : Program.runUnder mishaps (ExceptT.run do
      let found ← operation
      if !found then throw failure) passage = (answer, later)) :
    (answer = .ok () ∧ Program.runUnder mishaps operation.run passage = (.ok true, later)) ∨
      ∃ error, answer = .error error ∧
        ((∃ cause, Program.runUnder mishaps operation.run passage = (.error cause, later)) ∨
          Program.runUnder mishaps operation.run passage = (.ok false, later)) := by
  have parts := runUnder_bind mishaps operation (fun found => if !found then throw failure else pure ()) passage
  rcases ran : Program.runUnder mishaps operation.run passage with ⟨cause | found, between⟩
  · rw [ran] at parts
    cases parts.symm.trans done
    exact .inr ⟨cause, rfl, .inl ⟨cause, rfl⟩⟩
  · rw [ran] at parts
    cases found with
    | false =>
      cases parts.symm.trans done
      exact .inr ⟨failure, rfl, .inr rfl⟩
    | true =>
      cases parts.symm.trans done
      exact .inl ⟨rfl, rfl⟩

end Operation

namespace Service

variable (service : Service) (mishaps : Mishaps) (passage : Passage)

/-- How the next store call of a passage ends. -/
def nextEnding : Ending :=
  (Course.under (some service.auth.storeTimeout) (mishaps passage.calls.length)).ending

/-- A call to the store of users, apps and grants has the reply of the store, or fails. -/
theorem runUnder_credentials (request : CredentialCall) :
    Program.runUnder mishaps (service.credentials request).run passage =
      match nextEnding service mishaps passage with
      | .refused error => (.error error, ⟨passage.world, .credentials request :: passage.calls⟩)
      | .givenUp => (.error .timeout, ⟨passage.world, .credentials request :: passage.calls⟩)
      | _ => ((passage.world.stores.credentials.answer passage.world.now request).1,
        ⟨(passage.world.answer (.credentials request)).2, .credentials request :: passage.calls⟩) := by
  refine (Program.runUnder_bounded mishaps _ (.credentials request) passage).trans ?_
  unfold Passage.answer nextEnding
  dsimp only
  cases (Course.under (some service.auth.storeTimeout) (mishaps passage.calls.length)).ending with
  | refused error => rfl
  | givenUp => rfl
  | carriedOut => rfl
  | miscounted =>
    have whole : forall reply : Except Error request.Reply,
        reply.map (miscounted (.credentials request)) = reply := by
      intro reply
      cases reply with
      | error error => rfl
      | ok value => rfl
    exact congrArg (fun reply => (reply, _)) (whole _)

variable {service mishaps passage} {later : Passage}

/-- A call to the store of users, apps and grants fails and changes nothing, or is carried out. -/
theorem runUnder_credentials_cases {request : CredentialCall} {answer : Except Error request.Reply}
    (done : Program.runUnder mishaps (service.credentials request).run passage = (answer, later)) :
    (∃ error, answer = .error error ∧ later.world = passage.world) ∨
      ((passage.world.stores.credentials.answer passage.world.now request).1 = answer ∧
        later.world = (passage.world.answer (.credentials request)).2) := by
  rw [runUnder_credentials] at done
  cases ending : nextEnding service mishaps passage with
  | refused error =>
    rw [ending] at done
    cases done
    exact .inl ⟨error, rfl, rfl⟩
  | givenUp =>
    rw [ending] at done
    cases done
    exact .inl ⟨.timeout, rfl, rfl⟩
  | carriedOut =>
    rw [ending] at done
    cases done
    exact .inr ⟨rfl, rfl⟩
  | miscounted =>
    rw [ending] at done
    cases done
    exact .inr ⟨rfl, rfl⟩

theorem runUnder_credentials_ok {request : CredentialCall} {reply : request.Reply}
    (done : Program.runUnder mishaps (service.credentials request).run passage = (.ok reply, later)) :
    (passage.world.stores.credentials.answer passage.world.now request).1 = .ok reply ∧
      later.world = (passage.world.answer (.credentials request)).2 := by
  rcases runUnder_credentials_cases done with ⟨error, impossible, _⟩ | carriedOut
  · cases impossible
  · exact carriedOut

/-- Looking a refresh token up finds it if it is stored, or fails. -/
theorem runUnder_find_ok {digest : String} {found : Option RefreshToken}
    (done : Program.runUnder mishaps (service.tokens (.find digest)).run passage = (.ok found, later)) :
    found = passage.world.stores.tokens.tokens[digest]? ∧ later.world = passage.world := by
  have ran := (Program.runUnder_bounded mishaps service.auth.storeTimeout (.tokens (.find digest))
    passage).symm.trans done
  unfold Passage.answer at ran
  dsimp only at ran
  cases ending : (Course.under (some service.auth.storeTimeout) (mishaps passage.calls.length)).ending with
  | refused error =>
    rw [ending] at ran
    cases ran
  | givenUp =>
    rw [ending] at ran
    cases ran
  | carriedOut =>
    rw [ending] at ran
    cases ran
    exact ⟨rfl, rfl⟩
  | miscounted =>
    rw [ending] at ran
    cases ran
    exact ⟨rfl, rfl⟩

/-- A call to the store of refresh tokens leaves the users, apps and grants alone. -/
theorem runUnder_tokens_credentials (service : Service) (mishaps : Mishaps) (passage : Passage)
    (request : TokenCall) :
    (Program.runUnder mishaps (service.tokens request).run passage).2.world.stores.credentials =
      passage.world.stores.credentials := by
  have only : Operation.CallsOnly (· = .tokens request) (service.tokens request) :=
    Operation.callsOnly_call _ rfl
  refine Program.runUnder_preserves
    (fun stores => stores.credentials = passage.world.stores.credentials) only ?_ mishaps passage rfl
  rintro stores now _ rfl same
  exact same

end Service

end SingleSignOn

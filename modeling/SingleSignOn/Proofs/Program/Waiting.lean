import SingleSignOn.Proofs.Program.Running
import SingleSignOn.Store.Waiting

namespace SingleSignOn

/-!
# Programs that heed a limit

A program heeds a limit if it waits for no store call longer than that, and
if nothing but its result comes after a call that it has given up.  Then no
wait is without end, and it does not matter whether a call that takes too long
is waited for or fails at once: what the clock shows afterwards is looked at by
nobody.
-/

namespace Program

variable {α β : Type}

/-- No store call is left, and the result is as told whatever the clock shows. -/
def EndsWith (result : α) : Program α -> Prop
  | .done found => found = result
  | .call _ _ _ => False
  | .clock next => forall now, (next now).EndsWith result
  | .draw _ _ => False

theorem EndsWith.bind {program : Program α} {continuation : α -> Program β} {first : α} {result : β}
    (ends : program.EndsWith first) (rest : (continuation first).EndsWith result) :
    (program.bind continuation).EndsWith result := by
  induction program with
  | done found =>
    cases ends
    exact rest
  | call patience request next hypothesis => exact ends.elim
  | clock next hypothesis => exact fun now => hypothesis now (ends now)
  | draw count next hypothesis => exact ends.elim

/-- Every store call is given up at a limit.  After one that was given up or
has timed out, `late` holds of the results with which the program ends. -/
def Heeds (limit : Nat) (late : α -> α -> Prop) : Program α -> Prop
  | .done _ => True
  | .call patience _ next =>
    patience = some limit ∧
      (∃ given prompt, late given prompt ∧
        (next none).EndsWith given ∧ (next (some (.error .timeout))).EndsWith prompt) ∧
      forall reply, (next reply).Heeds limit late
  | .clock next => forall now, (next now).Heeds limit late
  | .draw _ next => forall bytes, (next bytes).Heeds limit late

theorem Heeds.bind {limit : Nat} {program : Program α} {continuation : α -> Program β} {middle : α -> α -> Prop}
    {late : β -> β -> Prop} (first : program.Heeds limit middle)
    (rest : forall result, (continuation result).Heeds limit late)
    (ends : forall given prompt, middle given prompt -> ∃ result other, late result other ∧
      (continuation given).EndsWith result ∧ (continuation prompt).EndsWith other) :
    (program.bind continuation).Heeds limit late := by
  induction program with
  | done result => exact rest result
  | call patience request next hypothesis =>
    rcases first with ⟨limited, ⟨given, prompt, related, after, afterPrompt⟩, goesOn⟩
    rcases ends given prompt related with ⟨result, other, told, ending, endingPrompt⟩
    exact ⟨limited, ⟨result, other, told, after.bind ending, afterPrompt.bind endingPrompt⟩,
      fun reply => hypothesis reply (goesOn reply)⟩
  | clock next hypothesis => exact fun now => hypothesis now (first now)
  | draw count next hypothesis => exact fun bytes => hypothesis bytes (first bytes)

theorem Heeds.mono {limit : Nat} {strong weak : α -> α -> Prop} {program : Program α}
    (heeds : program.Heeds limit strong) (weaker : forall given prompt, strong given prompt -> weak given prompt) :
    program.Heeds limit weak := by
  induction program with
  | done result => trivial
  | call patience request next hypothesis =>
    rcases heeds with ⟨limited, ⟨given, prompt, related, ends⟩, goesOn⟩
    exact ⟨limited, ⟨given, prompt, weaker given prompt related, ends⟩,
      fun reply => hypothesis reply (goesOn reply)⟩
  | clock next hypothesis => exact fun now => hypothesis now (heeds now)
  | draw count next hypothesis => exact fun bytes => hypothesis bytes (heeds bytes)

/-! ## Running -/

theorem EndsWith.runWaiting {program : Program α} {result : α} (ends : program.EndsWith result) (rate : Nat)
    (mishaps : Mishaps) (passage : Passage) :
    program.runWaiting rate mishaps passage = some (result, passage) := by
  induction program with
  | done found =>
    cases ends
    rfl
  | call patience request next hypothesis => exact ends.elim
  | clock next hypothesis => exact hypothesis passage.world.now (ends passage.world.now)
  | draw count next hypothesis => exact ends.elim

/-- A limited wait has an end. -/
theorem runWaiting_call (rate : Nat) (mishaps : Mishaps) (limit : Nat) (request : StoreCall)
    (next : Option (Except Error request.Reply) -> Program α) (passage : Passage) :
    let course := Course.under (some limit) (mishaps passage.calls.length)
    let ended := (passage.wait rate course.wait).answer mishaps (some limit) request
    (call (some limit) request next).runWaiting rate mishaps passage =
      (next ended.1).runWaiting rate mishaps ended.2 :=
  rfl

/-- A wait for ever has none if the call never ends. -/
theorem runWaiting_of_silence {rate : Nat} {mishaps : Mishaps} {request : StoreCall}
    {next : Option (Except Error request.Reply) -> Program α} {passage : Passage}
    (silent : mishaps passage.calls.length = some .silence) :
    (call none request next).runWaiting rate mishaps passage = none := by
  have waits : passage.await rate mishaps none request = none := by
    unfold Passage.await
    rw [silent]
  unfold runWaiting execute
  show Option.bind (passage.await rate mishaps none request) _ = none
  rw [waits]
  rfl

/-- Under a clock that stands still, a program that heeds a limit runs as under mishaps. -/
theorem Heeds.runWaiting_still {limit : Nat} {late : α -> α -> Prop} {program : Program α}
    (heeds : program.Heeds limit late) (mishaps : Mishaps) (passage : Passage) :
    program.runWaiting 0 mishaps passage = some (program.runUnder mishaps passage) := by
  induction program generalizing passage with
  | done result => rfl
  | call patience request next hypothesis =>
    rcases heeds with ⟨rfl, _, goesOn⟩
    have stands (milliseconds : Nat) : passage.wait 0 milliseconds = passage := by
      simp only [Passage.wait, Nat.zero_mul, Int.natCast_zero, Int.add_zero]
    rw [runWaiting_call, stands]
    exact hypothesis _ (goesOn _) (passage.answer mishaps (some limit) request).2
  | clock next hypothesis => exact hypothesis _ (heeds _) passage
  | draw count next hypothesis =>
    exact hypothesis _ (heeds _) ⟨(passage.world.drawBytes count).2, passage.calls⟩

/-- A program that heeds a limit within which every call is carried out runs as without mishaps. -/
theorem Heeds.runUnder_of_carriedOut {limit : Nat} {late : α -> α -> Prop} {program : Program α} {mishaps : Mishaps}
    (heeds : program.Heeds limit late)
    (carriedOut : forall number, (Course.under (some limit) (mishaps number)).ending = .carriedOut)
    (passage : Passage) :
    (program.runUnder mishaps passage).1 = (program.run passage.world).1 ∧
      (program.runUnder mishaps passage).2.world = (program.run passage.world).2 := by
  induction program generalizing passage with
  | done result => exact ⟨rfl, rfl⟩
  | call patience request next hypothesis =>
    rcases heeds with ⟨rfl, _, goesOn⟩
    have answered : passage.answer mishaps (some limit) request =
        (some (passage.world.answer request).1, ⟨(passage.world.answer request).2, request :: passage.calls⟩) := by
      unfold Passage.answer
      dsimp only
      rw [carriedOut passage.calls.length]
      rfl
    show ((next (passage.answer mishaps (some limit) request).1).runUnder mishaps
        (passage.answer mishaps (some limit) request).2).1 = _ ∧
      ((next (passage.answer mishaps (some limit) request).1).runUnder mishaps
        (passage.answer mishaps (some limit) request).2).2.world = _
    rw [answered]
    exact hypothesis _ (goesOn _) _
  | clock next hypothesis => exact hypothesis _ (heeds _) passage
  | draw count next hypothesis =>
    exact hypothesis _ (heeds _) ⟨(passage.world.drawBytes count).2, passage.calls⟩

end Program

/-- What happens to a call under mishaps of which some are hastened: the same,
or it was given up and now has timed out. -/
theorem Mishaps.hastened_cases (limit : Nat) (chosen : Nat -> Bool) (mishaps : Mishaps) (number : Nat) :
    mishaps.hastened limit chosen number = mishaps number ∨
      (Course.under (some limit) (mishaps number) = ⟨limit, .givenUp⟩ ∧
        mishaps.hastened limit chosen number = some (.refusal .timeout)) := by
  unfold hastened
  cases chosen number with
  | false => exact .inl rfl
  | true =>
    cases mishaps number with
    | none => exact .inl rfl
    | some fault =>
      cases fault with
      | refusal error => exact .inl rfl
      | silence => exact .inr ⟨rfl, rfl⟩
      | miscount => exact .inl rfl
      | delay milliseconds =>
        by_cases slow : limit < milliseconds
        · simp [promptly, Course.under, slow]
        · simp [promptly, slow]

/-- A program comes to an end under mishaps, and with the same result, the same
stores and the same calls when chosen calls that take too long fail at once. -/
def Program.EndsInTime {α : Type} (rate limit : Nat) (mishaps : Mishaps) (chosen : Nat -> Bool)
    (program : Program α) (passage : Passage) : Prop :=
  ∃ result later prompt,
    program.runWaiting rate mishaps passage = some (result, later) ∧
      program.runWaiting rate (mishaps.hastened limit chosen) passage = some (result, prompt) ∧
      later.world.stores = prompt.world.stores ∧ later.calls = prompt.calls

/-- A program that heeds a limit ends in time. -/
theorem Program.Heeds.endsInTime {α : Type} {limit : Nat} {late : α -> α -> Prop} {program : Program α}
    (heeds : program.Heeds limit late) (told : forall given prompt, late given prompt -> given = prompt) (rate : Nat)
    (mishaps : Mishaps) (chosen : Nat -> Bool) (passage : Passage) :
    program.EndsInTime rate limit mishaps chosen passage := by
  induction program generalizing passage with
  | done result => exact ⟨result, passage, passage, rfl, rfl, rfl, rfl⟩
  | call patience request next hypothesis =>
    rcases heeds with ⟨rfl, ⟨given, prompt, related, ends, endsPrompt⟩, goesOn⟩
    cases told given prompt related
    unfold EndsInTime
    rw [runWaiting_call, runWaiting_call]
    rcases mishaps.hastened_cases limit chosen passage.calls.length with kept | ⟨slow, hastened⟩
    · have answered : (passage.wait rate (Course.under (some limit) (mishaps passage.calls.length)).wait).answer
            (mishaps.hastened limit chosen) (some limit) request =
          (passage.wait rate (Course.under (some limit) (mishaps passage.calls.length)).wait).answer
            mishaps (some limit) request := by
        unfold Passage.answer
        rw [show (passage.wait rate _).calls = passage.calls from rfl, kept]
      rw [kept, answered]
      exact hypothesis _ (goesOn _) _
    · -- The clocks differ from here on, but nobody looks at them any more.
      have givenUp : (passage.wait rate limit).answer mishaps (some limit) request =
          (none, ⟨(passage.wait rate limit).world, request :: passage.calls⟩) := by
        unfold Passage.answer
        rw [show (passage.wait rate limit).calls = passage.calls from rfl, slow]
        rfl
      have refused : (passage.wait rate 0).answer (mishaps.hastened limit chosen) (some limit) request =
          (some (.error .timeout), ⟨(passage.wait rate 0).world, request :: passage.calls⟩) := by
        unfold Passage.answer
        rw [show (passage.wait rate 0).calls = passage.calls from rfl, hastened]
        rfl
      rw [slow, hastened]
      dsimp only [Course.under]
      rw [givenUp, refused]
      exact ⟨_, _, _, ends.runWaiting _ _ _, endsPrompt.runWaiting _ _ _, rfl, rfl⟩
  | clock next hypothesis => exact hypothesis _ (heeds _) passage
  | draw count next hypothesis =>
    exact hypothesis _ (heeds _) ⟨(passage.world.drawBytes count).2, passage.calls⟩

/-! ## Programs that may fail -/

section

variable {ε φ α β : Type} {limit : Nat}

/-- A program ends with a value as told, or with any failure. -/
def TellsLate (late : α -> Prop) : Except ε α -> Prop
  | .ok value => late value
  | .error _ => True

/-- A program that may fail heeds a limit.  After a call that was given up it
fails, or has a value of which `late` holds. -/
def TryHeeds (limit : Nat) (late : α -> Prop) (program : ExceptT ε Program α) : Prop :=
  Program.Heeds limit (fun given prompt => given = prompt ∧ TellsLate late prompt) program.run

namespace TryHeeds

theorem mono {strong weak : α -> Prop} {program : ExceptT ε Program α} (heeds : TryHeeds limit strong program)
    (weaker : forall value, strong value -> weak value) : TryHeeds limit weak program := by
  refine Program.Heeds.mono heeds fun given prompt told => ⟨told.1, ?_⟩
  cases prompt with
  | ok value => exact weaker value told.2
  | error error => trivial

variable {middle : β -> Prop} {late : α -> Prop} {program : ExceptT ε Program β}
  {continuation : β -> ExceptT ε Program α}

/-- After a call that was given up, the rest of a program has nothing left to do. -/
theorem bind_late (first : TryHeeds limit middle program)
    (rest : forall value, TryHeeds limit late (continuation value))
    (ends : forall value, middle value -> ∃ answer, TellsLate late answer ∧
      (continuation value).run.EndsWith answer) :
    TryHeeds limit late (program >>= continuation) := by
  show Program.Heeds limit _ (program.run.bind (ExceptT.bindCont continuation))
  refine Program.Heeds.bind first (fun result => ?_) fun given prompt told => ?_
  · cases result with
    | ok value => exact rest value
    | error error => trivial
  · rcases told with ⟨rfl, told⟩
    cases given with
    | ok value =>
      rcases ends value told with ⟨answer, tells, ending⟩
      exact ⟨answer, answer, ⟨rfl, tells⟩, ending, ending⟩
    | error error => exact ⟨.error error, .error error, ⟨rfl, trivial⟩, rfl, rfl⟩

/-- A program that goes on only after calls that were answered. -/
theorem bind (first : TryHeeds limit (fun _ => False) program)
    (rest : forall value, TryHeeds limit late (continuation value)) :
    TryHeeds limit late (program >>= continuation) :=
  first.bind_late rest fun _ impossible => impossible.elim

/-- What is made of a value. -/
theorem map (heeds : TryHeeds limit (fun _ => True) program) (tell : β -> α) :
    TryHeeds limit (fun _ => True) (program >>= fun value => pure (tell value)) :=
  heeds.bind_late (fun _ => trivial) fun value _ => ⟨.ok (tell value), trivial, rfl⟩

theorem adapt {program : ExceptT ε Program α} (heeds : TryHeeds limit late program) (tell : ε -> φ) :
    TryHeeds limit late (program.adapt tell) := by
  refine Program.Heeds.bind heeds (fun result => ?_) fun given prompt told => ?_
  · cases result with
    | ok value => trivial
    | error error => trivial
  · rcases told with ⟨rfl, told⟩
    cases given with
    | ok value => exact ⟨.ok value, .ok value, ⟨rfl, told⟩, rfl, rfl⟩
    | error error => exact ⟨.error (tell error), .error (tell error), ⟨rfl, trivial⟩, rfl, rfl⟩

end TryHeeds

end

namespace Operation

variable {α : Type} {limit : Nat}

theorem tryHeeds_call (limit : Nat) (request : StoreCall) :
    TryHeeds limit (fun _ => False) (Operation.call limit request) := by
  refine ⟨rfl, ⟨.error .timeout, .error .timeout, ⟨rfl, trivial⟩, rfl, rfl⟩, fun reply => ?_⟩
  cases reply with
  | none => trivial
  | some answer => trivial

theorem tryHeeds_attempt (limit : Nat) (request : StoreCall) :
    TryHeeds limit (· = .error .timeout) (Operation.attempt limit request) := by
  refine ⟨rfl, ⟨.ok (.error .timeout), .ok (.error .timeout), ⟨rfl, rfl⟩, rfl, rfl⟩, fun reply => ?_⟩
  cases reply with
  | none => trivial
  | some answer => trivial

theorem tryHeeds_orFail (limit : Nat) (late : α -> Prop) (error : Error) (found : Option α) :
    TryHeeds limit late (orFail error found) := by
  cases found with
  | none => trivial
  | some value => trivial

theorem tryHeeds_ofProgram {late : α -> Prop} {program : Program α}
    (heeds : program.Heeds limit fun given prompt => given = prompt ∧ late prompt) :
    TryHeeds limit late (ofProgram program) := by
  refine Program.Heeds.bind heeds (fun _ => trivial) fun given prompt told => ?_
  exact ⟨.ok given, .ok prompt, ⟨congrArg Except.ok told.1, told.2⟩, rfl, rfl⟩

end Operation

end SingleSignOn

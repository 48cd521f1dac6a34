import SingleSignOn.Proofs.Program.UnderMishaps

namespace SingleSignOn

/-!
# What a program assures however its store calls end

A store call may be refused, given up, carried out, or carried out with a
count that is reported wrong.  What a program assures from a world on holds
of its result and of the world that it leaves, whichever of these happens to
each of its calls.  Such assurances are put together line by line, and a run
under any mishaps has them.
-/

namespace Program

variable {α β : Type}

/-- However the store calls of a program end, its result and the world after it are as told. -/
def Assures (after : α -> World -> Prop) : Program α -> World -> Prop
  | .done result, world => after result world
  | .call _ request next, world =>
    forall ending, (next (world.endCall request ending).1).Assures after (world.endCall request ending).2
  | .clock next, world => (next world.now).Assures after world
  | .draw count next, world => (next (world.drawBytes count).1).Assures after (world.drawBytes count).2

theorem assures_bind (after : β -> World -> Prop) (program : Program α) (continuation : α -> Program β)
    (world : World) :
    (program.bind continuation).Assures after world ↔
      program.Assures (fun result later => (continuation result).Assures after later) world := by
  induction program generalizing world with
  | done result => rfl
  | call patience request next hypothesis => simp only [bind, Assures, hypothesis]
  | clock next hypothesis => simp only [bind, Assures, hypothesis]
  | draw count next hypothesis => simp only [bind, Assures, hypothesis]

theorem Assures.mono {strong weak : α -> World -> Prop} {program : Program α} {world : World}
    (assures : program.Assures strong world)
    (weaker : forall result later, strong result later -> weak result later) :
    program.Assures weak world := by
  induction program generalizing world with
  | done result => exact weaker result world assures
  | call patience request next hypothesis => exact fun ending => hypothesis _ (assures ending)
  | clock next hypothesis => exact hypothesis world.now assures
  | draw count next hypothesis => exact hypothesis _ assures

/-- What a program assures, every run has. -/
theorem Assures.runUnder {after : α -> World -> Prop} {program : Program α} (mishaps : Mishaps)
    (passage : Passage) (assures : program.Assures after passage.world) :
    after (program.runUnder mishaps passage).1 (program.runUnder mishaps passage).2.world := by
  induction program generalizing passage with
  | done result => exact assures
  | call patience request next hypothesis =>
    let course := Course.under patience (mishaps passage.calls.length)
    exact hypothesis _ (passage.answer mishaps patience request).2 (assures course.ending)
  | clock next hypothesis => exact hypothesis passage.world.now passage assures
  | draw count next hypothesis =>
    exact hypothesis _ ⟨(passage.world.drawBytes count).2, passage.calls⟩ assures

/-- A program whose calls all preserve something preserves it. -/
theorem assures_of_callsOnly {allowed : StoreCall -> Prop} {holds : Stores -> Prop} {program : Program α}
    (only : program.CallsOnly allowed)
    (kept : forall stores now request, allowed request -> holds stores ->
      holds (Stores.answer stores now request).2)
    {world : World} (start : holds world.stores) :
    program.Assures (fun _ later => holds later.stores) world := by
  induction program generalizing world with
  | done result => exact start
  | call patience request next hypothesis =>
    intro ending
    refine hypothesis _ (only.2 _) ?_
    rcases world.endCall_cases request ending with same | same
    · rw [same]
      exact start
    · rw [same]
      exact kept world.stores world.now request only.1 start
  | clock next hypothesis => exact hypothesis world.now (only world.now) start
  | draw count next hypothesis => exact hypothesis _ (only _) start

end Program

namespace Operation

variable {α β : Type}

/-- However its store calls end, an operation succeeds or fails as told. -/
def Assures (success : α -> World -> Prop) (failure : World -> Prop) (operation : Operation α)
    (world : World) : Prop :=
  Program.Assures (fun result later =>
    match result with
    | .ok value => success value later
    | .error _ => failure later) operation.run world

variable {success : α -> World -> Prop} {failure : World -> Prop} {world : World}

theorem assures_bind (operation : Operation β) (continuation : β -> Operation α) :
    (operation >>= continuation).Assures success failure world ↔
      operation.Assures (fun value later => (continuation value).Assures success failure later) failure world := by
  refine (Program.assures_bind _ operation.run (ExceptT.bindCont continuation) world).trans
    (iff_of_eq (congrArg (fun after => Program.Assures after operation.run world) ?_))
  funext result later
  cases result with
  | ok value => rfl
  | error error => rfl

theorem Assures.mono {strong : α -> World -> Prop} {operation : Operation α}
    (assures : operation.Assures strong failure world)
    (weaker : forall value later, strong value later -> success value later) :
    operation.Assures success failure world := by
  refine Program.Assures.mono assures fun result later held => ?_
  cases result with
  | ok value => exact weaker value later held
  | error error => exact held

/-- An operation that goes on only after a success. -/
theorem Assures.bind {between : β -> World -> Prop} {operation : Operation β} {continuation : β -> Operation α}
    (first : operation.Assures between failure world)
    (second : forall value later, between value later -> (continuation value).Assures success failure later) :
    (operation >>= continuation).Assures success failure world :=
  (assures_bind operation continuation).mpr (first.mono second)

/-- A store call that fails may nevertheless have been carried out. -/
theorem assures_call (patience : Nat) (request : StoreCall) {success : request.Reply -> World -> Prop}
    (failed : failure world) (carriedOut : failure (world.answer request).2)
    (answered : forall ending value, (world.endCall request ending).1 = some (.ok value) ->
      success value (world.endCall request ending).2) :
    (Operation.call patience request).Assures success failure world := by
  intro ending
  have either : failure (world.endCall request ending).2 := by
    rcases world.endCall_cases request ending with same | same
    · rw [same]
      exact failed
    · rw [same]
      exact carriedOut
  show Program.Assures _ _ (world.endCall request ending).2
  cases replied : (world.endCall request ending).1 with
  | none => exact either
  | some answer =>
    cases answer with
    | ok value => exact answered ending value replied
    | error error => exact either

/-- An operation that looks at the failure of a store call itself. -/
theorem assures_attempt (patience : Nat) (request : StoreCall)
    {success : Except Error request.Reply -> World -> Prop}
    (ended : forall ending answer, success answer (world.endCall request ending).2) :
    (Operation.attempt patience request).Assures success failure world := by
  intro ending
  show Program.Assures _ _ (world.endCall request ending).2
  cases (world.endCall request ending).1 with
  | none => exact ended ending (.error .timeout)
  | some answer => exact ended ending answer

theorem assures_now (success : Instant -> World -> Prop) :
    (ofProgram Program.now).Assures success failure world ↔ success world.now world :=
  Iff.rfl

theorem assures_orFail {error : Error} {found : Option α} (failed : found = none -> failure world)
    (present : forall value, found = some value -> success value world) :
    (orFail error found).Assures success failure world := by
  cases found with
  | none => exact failed rfl
  | some value => exact present value rfl

end Operation

end SingleSignOn

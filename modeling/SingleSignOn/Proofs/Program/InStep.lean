import SingleSignOn.Proofs.Program.Running
import SingleSignOn.Store.Timetable

namespace SingleSignOn

/-!
# Two runs in step

A program runs along a timetable while a program, mostly the same one, runs
elsewhere along the same timetable.  What holds at the end of both runs is
found line by line, like the outcome of a single run.

Something may be known about the store calls of the first run as a whole,
such as that no two of them create the same record.  So the calls are held
against a log that the first run must not leave: every lemma is about runs
whose calls so far are the beginning of that log.
-/

namespace Program

variable {α β γ δ : Type} {timetable : Timetable}

theorem runAlong_bind (program : Program α) (continuation : α -> Program β) (journey : Journey) :
    (program.bind continuation).runAlong timetable journey =
      (continuation (program.runAlong timetable journey).1).runAlong timetable
        (program.runAlong timetable journey).2 := by
  unfold runAlong
  rw [execute_bind]
  rfl

theorem runAlong_call (patience : Option Nat) (request : StoreCall)
    (next : Option (Except Error request.Reply) -> Program α) (journey : Journey) :
    (call patience request next).runAlong timetable journey =
      (next (some ((journey.tick timetable).world.answer request).1)).runAlong timetable
        ((journey.tick timetable).after request) :=
  rfl

theorem runAlong_clock (next : Instant -> Program α) (journey : Journey) :
    (clock next).runAlong timetable journey =
      (next (journey.due timetable)).runAlong timetable (journey.tick timetable) :=
  rfl

theorem runAlong_draw (count : Nat) (next : Bytes -> Program α) (journey : Journey) :
    (draw count next).runAlong timetable journey =
      (next (journey.world.drawBytes count).1).runAlong timetable
        { journey with world := (journey.world.drawBytes count).2 } :=
  rfl

/-- A run that takes no time is a run without mishaps. -/
theorem runAlong_still (program : Program α) (passage : Passage) (steps : Nat) :
    (program.runAlong Timetable.still ⟨passage, passage.world.now, steps⟩).1 =
        (program.runUnder Mishaps.nothing passage).1 ∧
      (program.runAlong Timetable.still ⟨passage, passage.world.now, steps⟩).2.toPassage =
        (program.runUnder Mishaps.nothing passage).2 := by
  have due (passage : Passage) (steps : Nat) :
      Journey.due Timetable.still ⟨passage, passage.world.now, steps⟩ = passage.world.now :=
    congrArg Instant.mk (Int.add_zero _)
  have stands (passage : Passage) (steps : Nat) :
      Journey.tick Timetable.still ⟨passage, passage.world.now, steps⟩ =
        ⟨passage, passage.world.now, steps + 1⟩ := by
    rw [Journey.tick, due]
    rfl
  induction program generalizing passage steps with
  | done result => exact ⟨rfl, rfl⟩
  | call patience request next hypothesis =>
    rw [runAlong_call, stands]
    exact hypothesis _ (passage.after request) (steps + 1)
  | clock next hypothesis =>
    rw [runAlong_clock, stands, due]
    exact hypothesis _ passage (steps + 1)
  | draw count next hypothesis =>
    exact hypothesis (passage.world.drawBytes count).1 ⟨(passage.world.drawBytes count).2, passage.calls⟩ steps

/-- A run only adds to the store calls before it. -/
theorem suffix_calls_runAlong (program : Program α) (journey : Journey) :
    journey.calls <:+ (program.runAlong timetable journey).2.calls := by
  induction program generalizing journey with
  | done result => exact List.suffix_refl _
  | call patience request next hypothesis =>
    exact (List.suffix_cons request journey.calls).trans (hypothesis _ ((journey.tick timetable).after request))
  | clock next hypothesis => exact hypothesis (journey.due timetable) (journey.tick timetable)
  | draw count next hypothesis =>
    exact hypothesis (journey.world.drawBytes count).1 { journey with world := (journey.world.drawBytes count).2 }

/-- What holds of the results and the journeys after two runs, of which the first keeps to a log. -/
def InStep (timetable : Timetable) (log : List StoreCall) (post : α -> Journey -> β -> Journey -> Prop)
    (first : Program α) (second : Program β) (journey other : Journey) : Prop :=
  (first.runAlong timetable journey).2.calls <:+ log ->
    post (first.runAlong timetable journey).1 (first.runAlong timetable journey).2
      (second.runAlong timetable other).1 (second.runAlong timetable other).2

variable {log : List StoreCall} {journey other : Journey}

theorem InStep.mono {post wider : α -> Journey -> β -> Journey -> Prop} {first : Program α} {second : Program β}
    (inStep : InStep timetable log post first second journey other)
    (implies : forall value later found further, post value later found further -> wider value later found further) :
    InStep timetable log wider first second journey other :=
  fun kept => implies _ _ _ _ (inStep kept)

theorem InStep.bind {middle : α -> Journey -> β -> Journey -> Prop} {post : γ -> Journey -> δ -> Journey -> Prop}
    {first : Program α} {second : Program β} {continuation : α -> Program γ} {sequel : β -> Program δ}
    (inStep : InStep timetable log middle first second journey other)
    (rest : forall value later found further, middle value later found further ->
      InStep timetable log post (continuation value) (sequel found) later further) :
    InStep timetable log post (first.bind continuation) (second.bind sequel) journey other := by
  intro kept
  rw [runAlong_bind] at kept ⊢
  rw [runAlong_bind]
  exact rest _ _ _ _ (inStep ((suffix_calls_runAlong _ _).trans kept)) kept

end Program

/-! ## Runs that may fail -/

theorem Operation.runAlong_bind {α β : Type} (timetable : Timetable) (operation : Operation α)
    (continuation : α -> Operation β) (journey : Journey) :
    Program.runAlong timetable (operation >>= continuation).run journey =
      match Program.runAlong timetable operation.run journey with
      | (.ok value, later) => Program.runAlong timetable (continuation value).run later
      | (.error error, later) => (.error error, later) := by
  refine (Program.runAlong_bind operation.run (ExceptT.bindCont continuation) journey).trans ?_
  rcases Program.runAlong timetable operation.run journey with ⟨_ | value, later⟩
  · rfl
  · rfl

section

variable {ε φ α β γ δ : Type} {timetable : Timetable} {log : List StoreCall} {alike : Journey -> Journey -> Prop}
  {journey other : Journey}

/-- Both runs have results of which something holds, or both have the same failure. -/
def EndAlike (alike : Journey -> Journey -> Prop) (post : α -> Journey -> β -> Journey -> Prop) :
    Except ε α -> Journey -> Except ε β -> Journey -> Prop
  | .ok value, journey, .ok found, other => post value journey found other
  | .error error, journey, .error failure, other => error = failure ∧ alike journey other
  | _, _, _, _ => False

/-- Both runs have the same result. -/
def Equally (alike : Journey -> Journey -> Prop) : α -> Journey -> α -> Journey -> Prop :=
  fun value journey found other => value = found ∧ alike journey other

/-- Two programs that may fail are in step if their ends are alike. -/
def TryInStep (timetable : Timetable) (log : List StoreCall) (alike : Journey -> Journey -> Prop)
    (post : α -> Journey -> β -> Journey -> Prop) (first : ExceptT ε Program α) (second : ExceptT ε Program β)
    (journey other : Journey) : Prop :=
  Program.InStep timetable log (EndAlike alike post) first.run second.run journey other

theorem tryInStep_pure {post : α -> Journey -> β -> Journey -> Prop} {value : α} {found : β}
    (holds : post value journey found other) :
    TryInStep timetable log alike post (pure value : ExceptT ε Program α) (pure found) journey other :=
  fun _ => holds

theorem tryInStep_throw {post : α -> Journey -> β -> Journey -> Prop} (related : alike journey other) (error : ε) :
    TryInStep timetable log alike post (throw error : ExceptT ε Program α) (throw error : ExceptT ε Program β)
      journey other :=
  fun _ => ⟨rfl, related⟩

namespace TryInStep

theorem mono {post wider : α -> Journey -> β -> Journey -> Prop} {first : ExceptT ε Program α}
    {second : ExceptT ε Program β} (inStep : TryInStep timetable log alike post first second journey other)
    (implies : forall value later found further, post value later found further -> wider value later found further) :
    TryInStep timetable log alike wider first second journey other :=
  Program.InStep.mono inStep fun result _ answer _ ends =>
    match result, answer, ends with
    | .ok _, .ok _, holds => implies _ _ _ _ holds
    | .error _, .error _, holds => holds

theorem bind {middle : α -> Journey -> β -> Journey -> Prop} {post : γ -> Journey -> δ -> Journey -> Prop}
    {first : ExceptT ε Program α} {second : ExceptT ε Program β} {continuation : α -> ExceptT ε Program γ}
    {sequel : β -> ExceptT ε Program δ} (inStep : TryInStep timetable log alike middle first second journey other)
    (rest : forall value later found further, middle value later found further ->
      TryInStep timetable log alike post (continuation value) (sequel found) later further) :
    TryInStep timetable log alike post (first >>= continuation) (second >>= sequel) journey other :=
  Program.InStep.bind inStep fun result _ answer _ ends =>
    match result, answer, ends with
    | .ok _, .ok _, holds => rest _ _ _ _ holds
    | .error _, .error _, holds => fun _ => holds

/-- A failure may be told in other words. -/
theorem adapt {post : α -> Journey -> β -> Journey -> Prop} {first : ExceptT ε Program α}
    {second : ExceptT ε Program β} (inStep : TryInStep timetable log alike post first second journey other)
    (tell : ε -> φ) :
    TryInStep timetable log alike post (first.adapt tell) (second.adapt tell) journey other :=
  Program.InStep.bind inStep fun result _ answer _ ends =>
    match result, answer, ends with
    | .ok _, .ok _, holds => fun _ => holds
    | .error _, .error _, holds => fun _ => ⟨congrArg tell holds.1, holds.2⟩

end TryInStep

end

end SingleSignOn

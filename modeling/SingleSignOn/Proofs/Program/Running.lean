import SingleSignOn.Service.Basic
import SingleSignOn.Store.Mishap

namespace SingleSignOn

/-!
# Running one program after another

A run of a program that goes on with another is a run of the first and then
of the second, from the world that the first has left.  So the outcome of an
operation can be read off its text line by line.
-/

namespace Program

variable {α β : Type}

theorem execute_bind {m : Type -> Type} [Monad m] [LawfulMonad m]
    (answer : Option Nat -> (request : StoreCall) -> m (Option (Except Error request.Reply)))
    (clockOf : m Instant) (bytesOf : Nat -> m Bytes) (program : Program α)
    (continuation : α -> Program β) :
    (program.bind continuation).execute answer clockOf bytesOf =
      program.execute answer clockOf bytesOf >>= fun result =>
        (continuation result).execute answer clockOf bytesOf := by
  induction program with
  | done result => simp only [bind, execute, pure_bind]
  | call patience request next hypothesis =>
    simp only [bind, execute, LawfulMonad.bind_assoc, hypothesis]
  | clock next hypothesis => simp only [bind, execute, LawfulMonad.bind_assoc, hypothesis]
  | draw count next hypothesis => simp only [bind, execute, LawfulMonad.bind_assoc, hypothesis]

theorem runUnder_bind (mishaps : Mishaps) (program : Program α) (continuation : α -> Program β)
    (passage : Passage) :
    (program.bind continuation).runUnder mishaps passage =
      (continuation (program.runUnder mishaps passage).1).runUnder mishaps
        (program.runUnder mishaps passage).2 := by
  unfold runUnder
  rw [execute_bind]
  rfl

theorem run_bind (program : Program α) (continuation : α -> Program β) (world : World) :
    (program.bind continuation).run world =
      (continuation (program.run world).1).run (program.run world).2 := by
  unfold run
  rw [execute_bind]
  rfl

/-- A store call that is given up has timed out. -/
theorem runUnder_bounded (mishaps : Mishaps) (patience : Nat) (request : StoreCall)
    (passage : Passage) :
    (bounded patience request).runUnder mishaps passage =
      ((passage.answer mishaps (some patience) request).1.getD (.error .timeout),
        (passage.answer mishaps (some patience) request).2) := by
  unfold runUnder bounded
  simp only [execute]
  show runUnder mishaps _ _ = _
  rcases passage.answer mishaps (some patience) request with ⟨_ | answer, later⟩
  · rfl
  · rfl

/-- A run without mishaps is a run. -/
theorem runUnder_nothing (program : Program α) (passage : Passage) :
    (program.runUnder Mishaps.nothing passage).1 = (program.run passage.world).1 ∧
      (program.runUnder Mishaps.nothing passage).2.world = (program.run passage.world).2 := by
  induction program generalizing passage with
  | done result => exact ⟨rfl, rfl⟩
  | call patience request next hypothesis =>
    exact hypothesis (some (passage.world.answer request).1)
      ⟨(passage.world.answer request).2, request :: passage.calls⟩
  | clock next hypothesis => exact hypothesis passage.world.now passage
  | draw count next hypothesis =>
    exact hypothesis (passage.world.drawBytes count).1
      ⟨(passage.world.drawBytes count).2, passage.calls⟩

end Program

namespace Operation

variable {α β : Type}

theorem runUnder_bind (mishaps : Mishaps) (operation : Operation α)
    (continuation : α -> Operation β) (passage : Passage) :
    Program.runUnder mishaps (operation >>= continuation).run passage =
      match Program.runUnder mishaps operation.run passage with
      | (.ok value, later) => Program.runUnder mishaps (continuation value).run later
      | (.error error, later) => (.error error, later) := by
  refine (Program.runUnder_bind mishaps operation.run (ExceptT.bindCont continuation) passage).trans ?_
  rcases Program.runUnder mishaps operation.run passage with ⟨_ | value, later⟩
  · rfl
  · rfl

/-- The answer of an operation that runs alone, and the world after it. -/
def outcome (operation : Operation α) (world : World) : Except Error α × World :=
  Program.run operation.run world

theorem outcome_pure (value : α) (world : World) :
    outcome (pure value) world = (.ok value, world) :=
  rfl

theorem outcome_bind (operation : Operation α) (continuation : α -> Operation β) (world : World) :
    outcome (operation >>= continuation) world =
      match outcome operation world with
      | (.ok value, later) => outcome (continuation value) later
      | (.error error, later) => (.error error, later) := by
  refine (Program.run_bind operation.run (ExceptT.bindCont continuation) world).trans ?_
  unfold outcome
  rcases Program.run operation.run world with ⟨_ | value, later⟩
  · rfl
  · rfl

theorem outcome_bind_of_ok {operation : Operation α} {value : α} {world between : World}
    (first : outcome operation world = (.ok value, between)) (continuation : α -> Operation β) :
    outcome (operation >>= continuation) world = outcome (continuation value) between := by
  rw [outcome_bind, first]

theorem outcome_now (world : World) :
    outcome (ofProgram Program.now) world = (.ok world.now, world) :=
  rfl

theorem outcome_attempt (patience : Nat) (request : StoreCall) (world : World) :
    outcome (Operation.attempt patience request) world =
      (.ok (world.answer request).1, (world.answer request).2) :=
  rfl

theorem outcome_result (result : Except Error α) (world : World) :
    outcome (ExceptT.mk (pure result)) world = (result, world) :=
  rfl

theorem outcome_orFail_some (error : Error) (value : α) (world : World) :
    outcome (orFail error (some value)) world = (.ok value, world) :=
  rfl

end Operation

namespace Service

/-- The text that stands for random bytes. -/
def textOf (bytes : Bytes) : String :=
  String.ofList (Base64.encode Base64.urlSafe bytes)

theorem outcome_randomText (world : World) :
    Operation.outcome (Operation.ofProgram randomText) world =
      (.ok (textOf (world.drawBytes randomTextLength).1), (world.drawBytes randomTextLength).2) :=
  rfl

end Service

end SingleSignOn

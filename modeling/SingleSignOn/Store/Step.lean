import SingleSignOn.Store.Faults

namespace SingleSignOn

/-!
# One step of a program

A program goes on by one step at a time: a store call is carried out as a
whole, or not at all, and so is a look at the clock and a drawing of random
bytes.  A run is a sequence of steps in which every store call is carried
out and nothing comes in between.
-/

namespace Program

/-- The program and the world after one step, in which a store call ends as told. -/
def step {α : Type} (ending : Ending) : Program α -> World -> Program α × World
  | .done result, world => (.done result, world)
  | .clock next, world => (next world.now, world)
  | .draw count next, world =>
    let (bytes, after) := world.drawBytes count
    (next bytes, after)
  | .call _ request next, world =>
    let (reply, after) := world.endCall request ending
    (next reply, after)

/-- The result of a program that has ended. -/
def result? {α : Type} : Program α -> Option α
  | .done result => some result
  | .call _ _ _ => none
  | .clock _ => none
  | .draw _ _ => none

theorem run_eq_run_step {α : Type} (program : Program α) (world : World) :
    program.run world = (program.step .carriedOut world).1.run (program.step .carriedOut world).2 := by
  cases program with
  | done result => rfl
  | call patience request next => rfl
  | clock next => rfl
  | draw count next => rfl

theorem eq_done_of_result? {α : Type} (program : Program α) (result : α)
    (ended : program.result? = some result) : program = .done result := by
  cases program with
  | done found =>
    cases ended
    rfl
  | call patience request next => cases ended
  | clock next => cases ended
  | draw count next => cases ended

end Program

end SingleSignOn

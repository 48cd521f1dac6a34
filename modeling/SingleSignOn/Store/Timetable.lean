import SingleSignOn.Store.Mishap

namespace SingleSignOn

/-!
# Runs that take their time

Time passes while a program runs.  Each store call and each reading of the
clock happens at a moment of its own, and none before the one that precedes
it.  A timetable says when they happen.  Every store call is carried out, and
nothing comes in between.
-/

/-- When the steps of a run happen, in nanoseconds from its start. -/
structure Timetable where
  /-- The moment of each store call or reading of the clock, by its number. -/
  moment : Nat -> Nat
  /-- When the run has ended. -/
  finish : Nat
  forward : forall number, moment number ≤ moment (number + 1)
  within : forall number, moment number ≤ finish

/-- The timetable of a run that takes no time. -/
def Timetable.still : Timetable :=
  ⟨fun _ => 0, 0, fun _ => Nat.le_refl _, fun _ => Nat.le_refl _⟩

/-- A passage on its way along a timetable. -/
structure Journey extends Passage where
  /-- When the run began. -/
  departure : Instant
  /-- The number of store calls and readings of the clock so far. -/
  steps : Nat

namespace Passage

/-- The passage at another time. -/
def atTime (passage : Passage) (now : Instant) : Passage :=
  ⟨{ passage.world with now := now }, passage.calls⟩

/-- The passage after a store call that was carried out. -/
def after (passage : Passage) (request : StoreCall) : Passage :=
  ⟨(passage.world.answer request).2, request :: passage.calls⟩

/-- The start of a run. -/
def depart (passage : Passage) : Journey :=
  ⟨passage, passage.world.now, 0⟩

end Passage

namespace Journey

/-- When the next store call or reading of the clock happens. -/
def due (timetable : Timetable) (journey : Journey) : Instant :=
  ⟨journey.departure.nanoseconds + timetable.moment journey.steps⟩

/-- The journey at its next store call or reading of the clock. -/
def tick (timetable : Timetable) (journey : Journey) : Journey :=
  ⟨journey.toPassage.atTime (journey.due timetable), journey.departure, journey.steps + 1⟩

/-- The journey after a store call that was carried out. -/
def after (journey : Journey) (request : StoreCall) : Journey :=
  { journey with toPassage := journey.toPassage.after request }

/-- The passage when the run has ended. -/
def arrive (timetable : Timetable) (journey : Journey) : Passage :=
  journey.toPassage.atTime ⟨journey.departure.nanoseconds + timetable.finish⟩

end Journey

/-- Runs a program alone along a timetable. -/
def Program.runAlong {α : Type} (timetable : Timetable) (program : Program α) : StateM Journey α :=
  program.execute
    (fun _ request => do
      let journey := (← get).tick timetable
      set (journey.after request)
      return some (journey.world.answer request).1)
    (do
      let journey := (← get).tick timetable
      set journey
      return journey.world.now)
    (fun count => do
      let journey ← get
      let (bytes, world) := journey.world.drawBytes count
      set { journey with world := world }
      return bytes)

end SingleSignOn

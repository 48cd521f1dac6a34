import SingleSignOn.Service.Sweeper
import SingleSignOn.Store.Step

namespace SingleSignOn.Service.Sweeper

/-!
# The sweeper at work

The loop together with the sweep that it has under way, over a world that
others change at the same time.  A sweep goes on by one step at a time, and
however its store call ends, the loop is told no more than that the sweep has
ended.  What a sweep has seen and done is noted, so that a run can be looked
at when it is over.
-/

/-- A store call of a sweep, with the stores right before and right after its end. -/
structure Exchange where
  request : StoreCall
  before : Stores
  after : Stores

/-- A sweep: what is left to do, when it looked at the clock and which store calls it made, the latest first. -/
structure Attempt where
  rest : Program (Except Error Nat)
  looked : List Instant
  made : List Exchange

namespace Attempt

/-- A sweep of which nothing is done yet. -/
def start (service : Service) : Attempt :=
  ⟨service.sweep.run, [], []⟩

/-- The sweep and the world after one step, in which a store call ends as told. -/
def step (ending : Ending) (attempt : Attempt) (world : World) : Attempt × World :=
  let (rest, after) := attempt.rest.step ending world
  let noted : Attempt := match attempt.rest with
    | .clock _ => { attempt with looked := world.now :: attempt.looked }
    | .call _ request _ => { attempt with made := ⟨request, world.stores, after.stores⟩ :: attempt.made }
    | _ => attempt
  ({ noted with rest := rest }, after)

end Attempt

/-- The loop, and what it works on. -/
structure Worker where
  loop : Loop
  world : World
  underWay : Option Attempt
  /-- The sweeps that have ended, with their outcomes, the latest first. -/
  ended : List (Attempt × Except Error Nat)
  /-- How many sweeps were started. -/
  started : Nat

/-- What happens next. -/
inductive Event where
  /-- The loop takes a tick that is due. -/
  | tick
  /-- The sweep under way goes on by one step; if it is at its store call, this ends as told. -/
  | proceed (ending : Ending)
  /-- The loop takes note of a change of the flag, or of its abandonment. -/
  | noticed
  /-- The flag is set to a value. -/
  | set (flag : Bool)
  /-- Whoever set the flag is gone. -/
  | abandon
  /-- Time has passed. -/
  | clock (now : Instant)
  /-- Others have made the world what it is now. -/
  | elsewhere (world : World)

/-- The value of the flag after an event. -/
def Event.flagAfter (flag : Bool) : Event -> Bool
  | .set value => value
  | _ => flag

/-- The value of the flag after a list of events: what it was set to last. -/
def flagAfter (flag : Bool) (events : List Event) : Bool :=
  events.foldl Event.flagAfter flag

namespace Worker

/-- The worker at the start of its loop. -/
def start (interval : Nat) (flag : Bool) (world : World) : Worker :=
  ⟨.start interval flag, world, none, [], 0⟩

/-- The worker with its loop after an occurrence. -/
def occur (worker : Worker) (occurrence : Occurrence) : Worker :=
  { worker with loop := worker.loop.step occurrence }

/-- The worker after an event. -/
def step (service : Service) (worker : Worker) : Event -> Worker
  | .tick =>
    if worker.loop.phase = .waiting then
      { worker.occur .tick with underWay := some (.start service), started := worker.started + 1 }
    else worker.occur .tick
  | .proceed ending =>
    match worker.underWay with
    | none => worker
    | some attempt =>
      let (after, world) := attempt.step ending worker.world
      match after.rest.result? with
      | none => { worker with world := world, underWay := some after }
      | some outcome =>
        { worker.occur .swept with world := world, underWay := none, ended := (after, outcome) :: worker.ended }
  | .noticed => worker.occur .noticed
  | .set flag => worker.occur (.set flag)
  | .abandon => worker.occur .abandon
  | .clock now => { worker with world := { worker.world with now := now } }
  | .elsewhere world => { worker with world := world }

/-- The worker after a list of events. -/
def run (service : Service) (worker : Worker) (events : List Event) : Worker :=
  events.foldl (step service) worker

end Worker

end SingleSignOn.Service.Sweeper

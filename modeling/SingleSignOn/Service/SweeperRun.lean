import SingleSignOn.Service.Sweeper
import SingleSignOn.Store.Site

namespace SingleSignOn.Service.Sweeper

/-!
# The sweeper over a stretch of time

The loop is started, sweeps at every multiple of its interval for as long as
the stretch lasts, and is then told to stop in one way or another.  A tick
that falls into a sweep is taken as soon as the sweep has ended.  A sweep that
has not ended by the end of the stretch is left at that, and while it lasts
the loop does not notice that it is told to stop.
-/

/-- How the loop is told to stop. -/
inductive Stop where
  /-- The flag is set at the end. -/
  | signal
  /-- The flag was set before the start. -/
  | before
  /-- Whoever could set the flag goes away at the end. -/
  | abandonment
  /-- The flag is first set to what it is already, which stops nothing. -/
  | falseAlarm
  /-- The loop is not told to stop. -/
  | never
  deriving DecidableEq, Repr

/-- What was seen of the loop. -/
structure Observation where
  sweeps : Nat
  /-- The loop had ended before it was told to stop. -/
  stoppedEarly : Bool
  /-- The loop ended. -/
  stopped : Bool

/-- Sweeps at ticks in a row.  `free` is the instant in milliseconds from which
on the loop is free again; a sweep that would begin after `finish` does not
take place.  `sweep` tells when the sweep that begins at an instant ends, if
it ends in time. -/
def sweepTicks (sweep : Nat -> Site -> Option Nat × Site) (finish : Nat) :
    List Nat -> Nat -> Nat -> Loop -> Site -> Nat × Loop × Site
  | [], _, sweeps, loop, site => (sweeps, loop, site)
  | tick :: ticks, free, sweeps, loop, site =>
    let begun := max tick free
    let started := loop.step .tick
    if finish < begun ∨ started.phase ≠ .sweeping then (sweeps, loop, site)
    else
      match sweep begun site with
      | (some ended, after) => sweepTicks sweep finish ticks ended (sweeps + 1) (started.step .swept) after
      | (none, after) => (sweeps + 1, started, after)

/-- The loop once it was told to stop and has taken note. -/
def Loop.toldTo (loop : Loop) : Stop -> Loop
  | .signal => (loop.step (.set true)).step .noticed
  | .falseAlarm => ((((loop.step (.set false)).step .noticed).step (.set true)).step .noticed)
  | .abandonment => (loop.step .abandon).step .noticed
  | .before => loop
  | .never => loop

/-- Runs the loop for some seconds at an interval in seconds, with the clock
moving along. -/
def observe (service : Service) (interval duration : Nat) (stop : Stop) (site : Site) : Observation × Site :=
  let start := site.trial.world.now
  let finish := duration * 1000
  let loop := Loop.start interval (stop = .before)
  let ticks := if interval = 0 then [] else (List.range (duration / interval + 1)).map (· * interval * 1000)
  let sweepOnce (time : Nat) (site : Site) : Option Nat × Site :=
    let now : Instant := ⟨start.nanoseconds + (time / 1000 : Nat) * Instant.perSecond⟩
    let (ended, after) := (site.setClock now).timedUntil finish time service.sweep.run
    (ended.map Prod.snd, after)
  let (sweeps, loop, site) := sweepTicks sweepOnce finish ticks 0 0 loop site
  let final := loop.toldTo stop
  (⟨sweeps, loop.phase = .stopped, final.phase = .stopped⟩,
    site.setClock ⟨start.nanoseconds + (duration : Int) * Instant.perSecond⟩)

end SingleSignOn.Service.Sweeper

import SingleSignOn.Service.Basic

namespace SingleSignOn.Service

/-!
# The sweeper

A background task that deletes expired refresh tokens at a fixed interval.
An expired token is refused anyway, so a missed sweep only lets dead records
linger.

The loop waits for the next tick or for a change of the shutdown flag,
whichever comes first, and looks at the flag before each wait.  It is given
as a machine: occurrences from outside are the ticks taken, the end of a
sweep, and what happens to the flag.
-/

/-- Deletes every refresh token that is expired by now, and counts them. -/
def sweep (service : Service) : Operation Nat := do
  let now ← Operation.ofProgram Program.now
  service.tokens (.deleteExpired now)

namespace Sweeper

/-- Where the loop stands. -/
inductive Phase where
  | waiting
  | sweeping
  | stopped
  deriving DecidableEq, Repr

/-- The loop and its view of the shutdown flag. -/
structure Loop where
  phase : Phase
  /-- The present value of the flag. -/
  flag : Bool
  /-- The flag was set since the loop last looked for a change. -/
  unseen : Bool
  /-- Nobody is left to set the flag. -/
  abandoned : Bool
  deriving DecidableEq, Repr

/-- What can happen to the loop. -/
inductive Occurrence where
  /-- The loop takes a tick that is due. -/
  | tick
  /-- The sweep under way has ended, in whatever way. -/
  | swept
  /-- The loop takes note of a change of the flag, or of its abandonment. -/
  | noticed
  /-- The flag is set to a value. -/
  | set (flag : Bool)
  /-- Whoever set the flag is gone. -/
  | abandon
  deriving DecidableEq, Repr

namespace Loop

/-- The look at the flag before each wait. -/
def beforeWait (loop : Loop) : Loop :=
  { loop with phase := if loop.flag then .stopped else .waiting }

/-- The loop at its start.  An interval of zero disables the sweeper. -/
def start (interval : Nat) (flag : Bool) : Loop :=
  let loop : Loop := ⟨.stopped, flag, false, false⟩
  if interval = 0 then loop else loop.beforeWait

/-- The loop after an occurrence. -/
def step (loop : Loop) : Occurrence -> Loop
  | .tick => if loop.phase = .waiting then { loop with phase := .sweeping } else loop
  | .swept => if loop.phase = .sweeping then loop.beforeWait else loop
  | .noticed =>
    if loop.phase = .waiting then
      if loop.unseen then { loop with unseen := false }.beforeWait
      else if loop.abandoned then { loop with phase := .stopped }
      else loop
    else loop
  | .set flag => { loop with flag := flag, unseen := true }
  | .abandon => { loop with abandoned := true }

end Loop

end Sweeper

end SingleSignOn.Service

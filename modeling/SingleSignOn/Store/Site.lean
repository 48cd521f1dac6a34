import SingleSignOn.Sql.Stores
import SingleSignOn.Store.Race

namespace SingleSignOn

/-!
# Where calls are answered

A service runs over stores in memory or over a database.  At a site one of
these answers the calls of a program, and everything else that the program
can reach is there too: the clock and the random bytes.
-/

/-- What answers the calls. -/
inductive Backend where
  /-- Stores in memory, which misbehave as planned. -/
  | memory
  /-- A database whose replies are scripted. -/
  | database
  /-- A database to which there is no way any more. -/
  | closedPool
  deriving DecidableEq, Repr

/-- All that a program can reach. -/
structure Site where
  backend : Backend
  trial : Trial
  script : Sql.Script

namespace Site

/-- Answers a call, from an instant in milliseconds on, and tells at which
instant it was answered. -/
def answer (site : Site) (time : Nat) (patience : Option Nat) (request : StoreCall) :
    (Option (Except Error request.Reply) × Nat) × Site :=
  match site.backend with
  | .memory =>
    let (course, begun) := site.trial.beginCall patience request
    let (reply, after) := begun.endCall request course.ending
    ((reply, time + course.wait), { site with trial := after })
  | .database =>
    let (reply, after) := site.script.answer request
    ((some reply, time), { site with script := after })
  | .closedPool => ((some (.error (.database .poolClosed)), time), site)

/-- Runs a program from an instant in milliseconds on, and tells at which
instant it ends. -/
def timed {α : Type} (time : Nat) : Program α -> Site -> (α × Nat) × Site
  | .done result, site => ((result, time), site)
  | .clock next, site => timed time (next site.trial.world.now) site
  | .draw count next, site =>
    let (bytes, after) := site.trial.drawBytes count
    timed time (next bytes) { site with trial := after }
  | .call patience request next, site =>
    let ((reply, later), after) := site.answer time patience request
    timed later (next reply) after

/-- Runs a program from an instant in milliseconds on until another, and tells
at which instant it ends.  A call that would end later is only begun, and the
program does not go on. -/
def timedUntil {α : Type} (deadline time : Nat) : Program α -> Site -> Option (α × Nat) × Site
  | .done result, site => (some (result, time), site)
  | .clock next, site => timedUntil deadline time (next site.trial.world.now) site
  | .draw count next, site =>
    let (bytes, after) := site.trial.drawBytes count
    timedUntil deadline time (next bytes) { site with trial := after }
  | .call patience request next, site =>
    let ((reply, later), after) := site.answer time patience request
    if deadline < later then
      (none, { site with trial := (site.trial.beginCall patience request).2 })
    else timedUntil deadline later (next reply) after

/-- Runs a program. -/
def run {α : Type} (program : Program α) (site : Site) : α × Site :=
  let ((result, _), after) := timed 0 program site
  (result, after)

/-- Runs programs one after another. -/
def runAll {α : Type} : List (Program α) -> Site -> List α × Site
  | [], site => ([], site)
  | program :: programs, site =>
    let (result, after) := run program site
    let (results, final) := runAll programs after
    (result :: results, final)

/-- Runs programs at the same time.  Only in memory do their calls take time
and get in each other's way. -/
def race {α : Type} (rounds : Nat) (programs : List (Program α)) (site : Site) : List α × Site :=
  match site.backend with
  | .memory =>
    let (results, after) := Race.results rounds programs site.trial
    (results, { site with trial := after })
  | _ => runAll programs site

/-- Sets the clock. -/
def setClock (now : Instant) (site : Site) : Site :=
  { site with trial := { site.trial with world := { site.trial.world with now := now } } }

end Site

end SingleSignOn

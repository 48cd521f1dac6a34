import SingleSignOn.Store.Faults

namespace SingleSignOn

/-!
# Programs that race

Several programs run over the same stores, each going on whenever it can.
A program is only held up by a call that takes time; the one whose call ends
first goes on first, and of calls that end together the one that was begun
first.
-/

/-- A program in a race. -/
inductive Racer (α : Type) : Type where
  | finished (result : α)
  /-- Held up by a call until an instant of the race in milliseconds. -/
  | waiting (instant : Nat) (request : StoreCall) (ending : Ending)
      (next : Option (Except Error request.Reply) -> Program α)

namespace Racer

/-- Runs a program from an instant of the race on, up to a call that takes time. -/
def advance {α : Type} (time : Nat) : Program α -> Trial -> Racer α × Trial
  | .done result, trial => (.finished result, trial)
  | .clock next, trial => advance time (next trial.world.now) trial
  | .draw count next, trial =>
    let (bytes, after) := trial.drawBytes count
    advance time (next bytes) after
  | .call patience request next, trial =>
    let (course, begun) := trial.beginCall patience request
    if course.wait = 0 then
      let (reply, after) := begun.endCall request course.ending
      advance time (next reply) after
    else (.waiting (time + course.wait) request course.ending next, begun)

/-- The instant up to which a racer is held up, if it is. -/
def wakes? {α : Type} : Racer α -> Option Nat
  | finished _ => none
  | waiting instant _ _ _ => some instant

/-- The result of a racer, if it has finished. -/
def result? {α : Type} : Racer α -> Option α
  | finished result => some result
  | waiting _ _ _ _ => none

/-- Ends the call that holds a racer up, and lets it go on. -/
def wake {α : Type} : Racer α -> Trial -> Racer α × Trial
  | finished result, trial => (.finished result, trial)
  | waiting instant request ending next, trial =>
    let (reply, after) := trial.endCall request ending
    advance instant (next reply) after

end Racer

namespace Race

/-- Starts programs one after another. -/
def start {α : Type} : List (Program α) -> Trial -> List (Racer α) × Trial
  | [], trial => ([], trial)
  | program :: programs, trial =>
    let (racer, after) := Racer.advance 0 program trial
    let (racers, final) := start programs after
    (racer :: racers, final)

/-- The instant at which the next racer goes on. -/
def nextWake? {α : Type} (racers : List (Racer α)) : Option Nat :=
  (racers.filterMap Racer.wakes?).min?

/-- Lets every racer go on that is held up until an instant, in order. -/
def wakeAt {α : Type} (instant : Nat) : List (Racer α) -> Trial -> List (Racer α) × Trial
  | [], trial => ([], trial)
  | racer :: racers, trial =>
    let (racer, after) := if racer.wakes? = some instant then racer.wake trial else (racer, trial)
    let (racers, final) := wakeAt instant racers after
    (racer :: racers, final)

/-- Goes from instant to instant, so many times at most. -/
def run {α : Type} : Nat -> List (Racer α) -> Trial -> List (Racer α) × Trial
  | 0, racers, trial => (racers, trial)
  | rounds + 1, racers, trial =>
    match nextWake? racers with
    | none => (racers, trial)
    | some instant =>
      let (racers, after) := wakeAt instant racers trial
      run rounds racers after

/-- The results of programs that start at the same time, as far as they
finish within so many rounds. -/
def results {α : Type} (rounds : Nat) (programs : List (Program α)) (trial : Trial) :
    List α × Trial :=
  let (started, after) := start programs trial
  let (racers, final) := run rounds started after
  (racers.filterMap Racer.result?, final)

end Race

end SingleSignOn

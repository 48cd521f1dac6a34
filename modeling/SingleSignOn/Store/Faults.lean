import SingleSignOn.Store.World

namespace SingleSignOn

/-!
# Stores that fail as planned

To see what an operation does when its stores misbehave, calls can be made
to fail, to hang, to take their time, or to report nothing deleted although
something was.  A plan says so per kind of call: how many calls pass first,
and how many are hit after that.

A call has two moments.  When it begins, it is noted, the plan is consulted
and its course is fixed; when it ends, it is carried out or not.  Between the
two, other programs may run.
-/

/-- What can be planned for a call. -/
inductive Fault where
  /-- The call fails and is not carried out. -/
  | refusal (error : Error)
  /-- The call never ends and is not carried out. -/
  | silence
  /-- The call is carried out after so many milliseconds. -/
  | delay (milliseconds : Nat)
  /-- The call is carried out, and a count of deleted tokens is reported as zero. -/
  | miscount
  deriving DecidableEq, Repr

/-- A fault for the calls of one name. -/
structure PlannedFault where
  callName : String
  fault : Fault
  /-- How many calls still pass. -/
  skipped : Nat
  /-- How many calls are hit after that. -/
  remaining : Nat
  deriving DecidableEq, Repr

/-- What is planned, with at most one entry for each name. -/
abbrev FaultPlan := List PlannedFault

namespace FaultPlan

/-- Plans a fault.  It replaces what was planned for calls of this name. -/
def plan (faults : FaultPlan) (entry : PlannedFault) : FaultPlan :=
  entry :: faults.filter fun other => other.callName != entry.callName

/-- The fault that hits the next call of a name, and the plan after this call. -/
def take (callName : String) : FaultPlan -> Option Fault × FaultPlan
  | [] => (none, [])
  | entry :: others =>
    if entry.callName = callName then
      match entry.skipped, entry.remaining with
      | skipped + 1, _ => (none, { entry with skipped := skipped } :: others)
      | 0, remaining + 1 => (some entry.fault, { entry with remaining := remaining } :: others)
      | 0, 0 => (none, entry :: others)
    else
      let (fault, after) := take callName others
      (fault, entry :: after)

end FaultPlan

/-- How a call ends. -/
inductive Ending where
  | refused (error : Error)
  | carriedOut
  | miscounted
  /-- The caller has stopped waiting. -/
  | givenUp
  deriving DecidableEq, Repr

/-- The time that a call takes in milliseconds, and how it ends. -/
structure Course where
  wait : Nat
  ending : Ending
  deriving DecidableEq, Repr

/-- The course of a call under the patience of its caller.  A call that ends
just when patience does is in time. -/
def Course.under (patience : Option Nat) : Option Fault -> Course
  | none => ⟨0, .carriedOut⟩
  | some (.refusal error) => ⟨0, .refused error⟩
  | some .miscount => ⟨0, .miscounted⟩
  | some .silence => ⟨patience.getD 0, .givenUp⟩
  | some (.delay milliseconds) =>
    match patience with
    | some limit => if limit < milliseconds then ⟨limit, .givenUp⟩ else ⟨milliseconds, .carriedOut⟩
    | none => ⟨milliseconds, .carriedOut⟩

/-- The reply with a count of deleted tokens replaced by zero. -/
def miscounted : (call : StoreCall) -> call.Reply -> call.Reply
  | .tokens (.deleteByToken _), _ => (0 : Nat)
  | .tokens (.deleteByOwner _ _), _ => (0 : Nat)
  | .tokens (.deleteByUser _), _ => (0 : Nat)
  | .tokens (.deleteByApp _), _ => (0 : Nat)
  | .tokens (.deleteExpired _), _ => (0 : Nat)
  | .tokens (.create _), reply => reply
  | .tokens (.find _), reply => reply
  | .credentials _, reply => reply

namespace World

/-- Ends a call.  A caller who has stopped waiting gets no reply, and nothing was carried out. -/
def endCall (world : World) (request : StoreCall) :
    Ending -> Option (Except Error request.Reply) × World
  | .refused error => (some (.error error), world)
  | .givenUp => (none, world)
  | .carriedOut =>
    let (reply, after) := world.answer request
    (some reply, after)
  | .miscounted =>
    let (reply, after) := world.answer request
    (some (reply.map (miscounted request)), after)

end World

/-- A world whose stores misbehave as planned, with the names of the calls
that were begun, the latest first. -/
structure Trial where
  world : World
  faults : FaultPlan
  begun : List String

namespace Trial

/-- Begins a call: it is noted, and its course is fixed. -/
def beginCall (trial : Trial) (patience : Option Nat) (request : StoreCall) : Course × Trial :=
  let (fault, faults) := trial.faults.take request.name
  (.under patience fault, { trial with faults := faults, begun := request.name :: trial.begun })

/-- Ends a call. -/
def endCall (trial : Trial) (request : StoreCall) (ending : Ending) :
    Option (Except Error request.Reply) × Trial :=
  let (reply, world) := trial.world.endCall request ending
  (reply, { trial with world := world })

/-- Answers a call with nothing else going on until it ends. -/
def answer (trial : Trial) (patience : Option Nat) (request : StoreCall) :
    Option (Except Error request.Reply) × Trial :=
  let (course, begun) := trial.beginCall patience request
  begun.endCall request course.ending

/-- Draws random bytes. -/
def drawBytes (trial : Trial) (count : Nat) : Bytes × Trial :=
  let (bytes, world) := trial.world.drawBytes count
  (bytes, { trial with world := world })

end Trial

end SingleSignOn

import SingleSignOn.Service.Call
import SingleSignOn.Store.Step

namespace SingleSignOn

/-!
# Calls in progress at the same time

Any number of calls to the service run over one world.  A call goes on by one
step at a time: a store call is carried out as a whole, or not at all, and so
is a look at the clock and a drawing of random bytes.  Which call goes on
next, and how its store call ends, is told by an event; a list of events is
one way in which everything may come about, and every way is such a list.

Calls that run one after another are the lists in which each call is brought
to its end before the next one begins.
-/

/-- A call to the service, with what is left to do for it. -/
structure Process where
  call : ServiceCall
  rest : Program (Except Error call.Reply)

namespace Process

/-- A call of which nothing is done yet. -/
def start (service : Service) (call : ServiceCall) : Process :=
  ⟨call, service.program call⟩

/-- The answer to the call, once there is one. -/
def answer? (process : Process) : Option (Except Error process.call.Reply) :=
  process.rest.result?

/-- The process and the world after one step. -/
def step (ending : Ending) (process : Process) (world : World) : Process × World :=
  let (rest, after) := process.rest.step ending world
  ({ process with rest := rest }, after)

/-- Whether the call is answered. -/
def isFinished (process : Process) : Bool :=
  process.answer?.isSome

/-- The session that a call handed out. -/
def session? : Process -> Option Session
  | ⟨.login _ _ _, .done (.ok session)⟩ => some session
  | ⟨.refresh _, .done (.ok session)⟩ => some session
  | _ => none

end Process

/-- All calls so far, by the order of their beginning, over one world. -/
structure System where
  world : World
  processes : List Process

/-- What happens next. -/
inductive Event where
  /-- A call to the service begins. -/
  | begin (call : ServiceCall)
  /-- The call of a number goes on by one step; if it is at a store call, this ends as told. -/
  | proceed (number : Nat) (ending : Ending)
  /-- The clock is set. -/
  | setClock (now : Instant)
  deriving DecidableEq, Repr

namespace System

/-- A world in which nothing was asked of the service yet. -/
def start (world : World) : System := ⟨world, []⟩

/-- The system after an event. -/
def step (service : Service) (system : System) : Event -> System
  | .begin call => { system with processes := system.processes ++ [Process.start service call] }
  | .proceed number ending =>
    match system.processes[number]? with
    | none => system
    | some process =>
      let (after, world) := process.step ending system.world
      ⟨world, system.processes.set number after⟩
  | .setClock now => { system with world := { system.world with now := now } }

/-- The system after a list of events. -/
def run (service : Service) (system : System) (events : List Event) : System :=
  events.foldl (step service) system

/-- No call is in progress. -/
def isSettled (system : System) : Bool :=
  system.processes.all Process.isFinished

/-- A refresh token was handed out by a call that is answered. -/
def HandedOut (system : System) (token : String) : Prop :=
  ∃ process ∈ system.processes, ∃ session, process.session? = some session ∧ session.refreshToken = token

end System

end SingleSignOn

namespace SingleSignOn

/-!
# Shutdown by signal

A process is asked to shut down by an interrupt or by a request to
terminate.  Once asked for, shutdown stays asked for.  The watch takes the
first such signal and is done; a later one finds nobody who takes it, and is
met by the next watch of the same process, which takes it at once.
-/

/-- A signal to the process. -/
inductive Signal where
  | interrupt
  | terminate
  | hangUp
  | user
  deriving DecidableEq, Repr

/-- Whether a signal asks for shutdown. -/
def Signal.asksForShutdown : Signal -> Bool
  | interrupt => true
  | terminate => true
  | hangUp => false
  | user => false

/-- A watch for signals. -/
structure ShutdownWatch where
  requested : Bool
  /-- A signal came that nobody took. -/
  untaken : Bool
  deriving DecidableEq, Repr

namespace ShutdownWatch

/-- A new watch, in a process that has an untaken signal or not. -/
def start (untaken : Bool) : ShutdownWatch := ⟨untaken, false⟩

/-- The watch after a signal. -/
def receive (watch : ShutdownWatch) (signal : Signal) : ShutdownWatch :=
  if signal.asksForShutdown then
    if watch.requested then { watch with untaken := true } else { watch with requested := true }
  else watch

/-- The states of a watch before the first signal and after each. -/
def history (watch : ShutdownWatch) : List Signal -> List ShutdownWatch
  | [] => [watch]
  | signal :: signals => watch :: history (watch.receive signal) signals

end ShutdownWatch

end SingleSignOn

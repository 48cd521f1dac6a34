import SingleSignOn.Log.Filter
import SingleSignOn.Log.Line
import SingleSignOn.Settings.Basic
import SingleSignOn.Text.Uri

namespace SingleSignOn.Log

/-!
# Telemetry

Telemetry is set up once in the life of a process.  Setting it up fails if
the export address is no address, or if it was set up before; events are
logged from the first success on.
-/

/-- Why telemetry could not be set up. -/
inductive SetupError where
  | invalidAddress (text : String) (fault : Uri.Fault)
  | alreadySet
  deriving DecidableEq, Repr

/-- The text of a failure. -/
def SetupError.message : SetupError -> String
  | invalidAddress text fault => "invalid URI " ++ text ++ ". Reason " ++ fault.message
  | alreadySet => "a global default trace dispatcher has already been set"

/-- How events are logged. -/
structure Subscriber where
  filter : Filter
  format : LogFormat
  colour : Bool
  deriving DecidableEq, Repr

/-- Sets telemetry up in a process that has a subscriber already or not.  An
empty export address stands for the usual one. -/
def setUp (current : Option Subscriber) (wanted : Subscriber) (address : Option String) :
    Except SetupError Subscriber := do
  match address with
  | some text =>
    if !text.isEmpty then
      if let .error fault := Uri.check text then throw (.invalidAddress text fault)
  | none => pure ()
  if current.isSome then throw .alreadySet
  return wanted

namespace Subscriber

/-- What is seen of an event: nothing if it is not logged, otherwise the event
inside of those spans that are recorded. -/
def seen? (subscriber : Subscriber) (event : Event) : Option Event :=
  if subscriber.filter.enables event then
    some { event with spans := event.spans.filter subscriber.filter.records }
  else none

/-- The lines of an event that is seen. -/
def write (subscriber : Subscriber) (now : Instant) (event : Event) : String :=
  match subscriber.format with
  | .text => event.line subscriber.colour now
  | .json => (Bytes.toString? (event.json now).render).getD ""

end Subscriber

end SingleSignOn.Log

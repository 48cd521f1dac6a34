import SingleSignOn.Log.Event

namespace SingleSignOn.Log

/-!
# Reports of a crash

When a part of the program gives up, what it says is logged before anything
else happens, with the place where it gave up.
-/

/-- What a part of the program gave up with. -/
inductive Payload where
  | text (message : String)
  /-- Something that is no text. -/
  | other
  deriving DecidableEq, Repr

/-- The message of a payload; there is none in what is no text. -/
def Payload.message : Payload -> String
  | text message => message
  | other => ""

/-- The event that reports a crash. -/
def crashReport (location : String) (payload : Payload) : Event where
  level := .error
  target := "tenant_sso"
  message := "Panic occurred"
  fields := [("panic.location", .bare location), ("panic.payload", .bare payload.message)]
  spans := []

end SingleSignOn.Log

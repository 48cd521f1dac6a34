import SingleSignOn.Service.Basic

namespace SingleSignOn.Service

/-!
# Health

The service is ready when its store of users answers in time.
-/

/-- Why the store does not count as healthy. -/
inductive Illness where
  | failed (cause : Error)
  | timedOut
  deriving DecidableEq, Repr

/-- The text of an illness for operators. -/
def Illness.message : Illness -> String
  | failed cause => "Store check failed: " ++ cause.message
  | timedOut => "Store check timed out"

/-- Whether the store answers.  Unlike elsewhere, a call that took too long
is told apart from one that failed. -/
def checkStore (service : Service) : Program (Option Illness) :=
  .call (some service.auth.storeTimeout) (.credentials .ping) fun
    | some (.ok _) => .done none
    | some (.error cause) => .done (some (.failed cause))
    | none => .done (some .timedOut)

end SingleSignOn.Service

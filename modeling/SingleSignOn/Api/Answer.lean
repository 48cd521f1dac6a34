import SingleSignOn.Http.Handling

namespace SingleSignOn

/-!
# Answers to failures

A failure is answered with a status and a short message.  What went wrong
inside the service or its database is not told.
-/

namespace Error

/-- The status of a failure. -/
def status : Error -> Nat
  | database _ => 500
  | invalidCredentials => 401
  | userExists => 409
  | userNotFound => 404
  | appNotFound => 404
  | badRequest _ => 400
  | conflict _ => 409
  | timeout => 504
  | internal => 500

/-- The message that a caller gets. -/
def publicMessage : Error -> String
  | database _ => "Internal server error"
  | invalidCredentials => "Invalid credentials"
  | userExists => "User already exists"
  | userNotFound => "User not found"
  | appNotFound => "App not found"
  | badRequest message => message
  | conflict message => message
  | timeout => "Timed out"
  | internal => "Internal server error"

/-- The answer to a failure. -/
def response (error : Error) : Http.Response :=
  .ofJson error.status (.record [("error", .text error.publicMessage)])

end Error

/-- An operation as part of a handler; its failure ends the handler. -/
def Operation.handled {α : Type} (operation : Operation α) : Http.Handling α :=
  operation.adapt Error.response

end SingleSignOn

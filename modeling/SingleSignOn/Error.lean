namespace SingleSignOn

/-!
# Causes of failure

Every operation of the service fails with an `Error`.  A rejected caller
learns only that credentials were not accepted, never which part of them;
the detail of a database failure is for the log and is cut off before an
answer leaves the service.
-/

/-- How a column is named in a failure to read it. -/
inductive ColumnRef where
  | named (name : String)
  | numbered (position : Nat)
  deriving DecidableEq, Repr

/-- Why the database, or the way to it, failed. -/
inductive DatabaseError where
  | noRow
  | poolTimedOut
  | poolClosed
  | workerCrashed
  | protocolViolation (detail : String)
  /-- An error that the database itself reported, with its five-character state. -/
  | reported (state message : String)
  | columnMissing (name : String)
  /-- A column was asked for by a position that the row does not have. -/
  | columnOutOfRange (position width : Nat)
  | unexpectedNull (column : ColumnRef)
  /-- A column of one type where a value of another was expected. -/
  | typeMismatch (column : ColumnRef) (valueType expected actual : String)
  deriving DecidableEq, Repr

namespace ColumnRef

/-- A column as it is named in messages. -/
def text : ColumnRef -> String
  | named name => "\"" ++ name ++ "\""
  | numbered position => toString position

end ColumnRef

namespace DatabaseError

/-- The detail shown in logs. -/
def message : DatabaseError -> String
  | noRow => "no rows returned by a query that expected to return at least one row"
  | poolTimedOut => "pool timed out while waiting for an open connection"
  | poolClosed => "attempted to acquire a connection on a closed pool"
  | workerCrashed => "attempted to communicate with a crashed background worker"
  | protocolViolation detail => "encountered unexpected or invalid data: " ++ detail
  | reported _ message => "error returned from database: " ++ message
  | columnMissing name => "no column found for name: " ++ name
  | columnOutOfRange position width =>
    "column index out of bounds: the len is " ++ toString width ++ ", but the index is " ++ toString position
  | unexpectedNull column =>
    "error occurred while decoding column " ++ column.text ++ ": unexpected null; try decoding as an `Option`"
  | typeMismatch column valueType expected actual =>
    "error occurred while decoding column " ++ column.text ++ ": mismatched types; Rust type `" ++ valueType ++
      "` (as SQL type `" ++ expected ++ "`) is not compatible with SQL type `" ++ actual ++ "`"

/-- Whether the database reported that a unique constraint would be violated. -/
def isUniqueViolation : DatabaseError -> Bool
  | reported state _ => state == "23505"
  | _ => false

end DatabaseError

/-- Why an operation of the service failed. -/
inductive Error where
  | database (cause : DatabaseError)
  /-- A wrong email, password or app, or a token that is not or no longer good. -/
  | invalidCredentials
  | userExists
  | userNotFound
  | appNotFound
  | badRequest (message : String)
  | conflict (message : String)
  /-- A store call took longer than it may. -/
  | timeout
  | internal
  deriving DecidableEq, Repr

namespace Error

/-- The text of an error for logs and operators. -/
def message : Error -> String
  | database cause => "Database error: " ++ cause.message
  | invalidCredentials => "Invalid credentials"
  | userExists => "User already exists"
  | userNotFound => "User not found"
  | appNotFound => "App not found"
  | badRequest message => "Invalid request: " ++ message
  | conflict message => "Conflict: " ++ message
  | timeout => "Operation timed out"
  | internal => "Internal server error"

end Error

end SingleSignOn

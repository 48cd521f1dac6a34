import SingleSignOn.Json.Value

namespace SingleSignOn.Log

/-!
# Events

An event has a level, a target that tells which part of the program it comes
from, a message and named fields.  It may happen inside of spans, which have
fields of their own.
-/

/-- How grave an event is. -/
inductive Level where
  | error
  | warn
  | info
  | debug
  | trace
  deriving DecidableEq, Repr

/-- The rank of a level; the finer, the higher. -/
def Level.rank : Level -> Nat
  | error => 1
  | warn => 2
  | info => 3
  | debug => 4
  | trace => 5

/-- The name of a level. -/
def Level.name : Level -> String
  | error => "ERROR"
  | warn => "WARN"
  | info => "INFO"
  | debug => "DEBUG"
  | trace => "TRACE"

/-- The value of a field. -/
inductive FieldValue where
  | integer (value : Int)
  | text (value : String)
  /-- A text that is written without quotes. -/
  | bare (value : String)
  deriving DecidableEq, Repr

/-- A field value in JSON. -/
def FieldValue.json : FieldValue -> Json.Value
  | integer value => .integer value
  | text value => .text value
  | bare value => .text value

/-- Named values. -/
abbrev Fields := List (String × FieldValue)

/-- A stretch of work that events happen inside of. -/
structure Span where
  name : String
  level : Level
  target : String
  fields : Fields
  deriving DecidableEq, Repr

/-- An event. -/
structure Event where
  level : Level
  target : String
  message : String
  fields : Fields
  /-- The spans around it, the outermost first. -/
  spans : List Span
  deriving DecidableEq, Repr

end SingleSignOn.Log

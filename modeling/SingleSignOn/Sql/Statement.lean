import SingleSignOn.Time.Instant

namespace SingleSignOn.Sql

/-!
# Statements and replies

A statement is a text with numbered places and the parameters that go there.
A parameter never becomes part of the text.  The database replies with rows,
with the number of rows that it touched, or with an error.
-/

/-- A parameter of a statement. -/
inductive Parameter where
  | null
  | integer (value : Int)
  | text (value : String)
  | boolean (value : Bool)
  /-- Microseconds since the start of 1970. -/
  | timestamp (microseconds : Int)
  deriving DecidableEq, Repr

/-- A statement with its parameters. -/
structure Statement where
  text : String
  parameters : List Parameter
  deriving DecidableEq, Repr

/-- The type of a column. -/
inductive ColumnType where
  | integer
  | text
  | boolean
  | timestamp
  deriving DecidableEq, Repr

/-- The name of a column type in the database. -/
def ColumnType.name : ColumnType -> String
  | integer => "INT8"
  | text => "TEXT"
  | boolean => "BOOL"
  | timestamp => "TIMESTAMPTZ"

/-- The type of value that a column type is read into, as error messages name it. -/
def ColumnType.valueType : ColumnType -> String
  | integer => "i64"
  | text => "alloc::string::String"
  | boolean => "bool"
  | timestamp => "time::offset_date_time::OffsetDateTime"

/-- A column of a reply. -/
structure Column where
  name : String
  type : ColumnType
  deriving DecidableEq, Repr

/-- A cell of a row. -/
inductive Cell where
  | null
  | integer (value : Int)
  | text (value : String)
  | boolean (value : Bool)
  /-- Microseconds since the start of 1970. -/
  | timestamp (microseconds : Int)
  deriving DecidableEq, Repr

/-- A row with the columns of its reply. -/
structure Row where
  columns : List Column
  cells : List Cell
  deriving DecidableEq, Repr

/-- What the database replies to a statement. -/
inductive Reply where
  /-- Rows, and the count that the database reports if it differs from their number. -/
  | rows (columns : List Column) (cells : List (List Cell)) (reported : Option Nat)
  /-- An error with its five-character state. -/
  | failed (state message : String)
  deriving DecidableEq, Repr

/-- The start of the year 2000 in nanoseconds since the start of 1970. -/
def epoch : Int := 946684800 * Instant.perSecond

/-- An instant as a timestamp: microseconds, with what lies beyond them cut
off in the direction of the start of 2000, from where the database counts. -/
def microseconds (instant : Instant) : Int :=
  epoch / 1000 + (instant.nanoseconds - epoch).tdiv 1000

/-- An instant as a parameter. -/
def Parameter.ofInstant (instant : Instant) : Parameter :=
  .timestamp (microseconds instant)

/-- A text that may be absent as a parameter. -/
def Parameter.ofText? : Option String -> Parameter
  | some value => .text value
  | none => .null

end SingleSignOn.Sql

import SingleSignOn.Identity.Session
import SingleSignOn.Error
import SingleSignOn.Sql.Statement

namespace SingleSignOn.Sql

/-!
# Reading rows

A record is read out of a row column by column, by name, in the order of its
fields; the first column that is missing, null or of another type is the
failure.  Further columns and the order of columns do not matter.
-/

namespace Row

/-- The column of a name with its cell.  Of several columns of one name the last counts. -/
def named? (row : Row) (name : String) : Option (Column × Cell) :=
  (row.columns.zip row.cells).reverse.find? fun (column, _) => column.name == name

/-- Reads a cell as a value of a type, if the column has that type. -/
def readCell {α : Type} (type : ColumnType) (read : Cell -> Option α) (reference : ColumnRef)
    (column : Column) (cell : Cell) : Except DatabaseError α :=
  match cell with
  | .null => .error (.unexpectedNull reference)
  | cell =>
    if column.type = type then
      match read cell with
      | some value => .ok value
      | none => .error (.typeMismatch reference type.valueType type.name column.type.name)
    else .error (.typeMismatch reference type.valueType type.name column.type.name)

/-- Reads the column of a name. -/
def read {α : Type} (row : Row) (type : ColumnType) (read : Cell -> Option α) (name : String) :
    Except DatabaseError α :=
  match row.named? name with
  | some (column, cell) => readCell type read (.named name) column cell
  | none => .error (.columnMissing name)

/-- The integer in the column of a name. -/
def integer (row : Row) (name : String) : Except DatabaseError Int :=
  row.read .integer (fun | .integer value => some value | _ => none) name

/-- The text in the column of a name. -/
def text (row : Row) (name : String) : Except DatabaseError String :=
  row.read .text (fun | .text value => some value | _ => none) name

/-- The truth value in a cell. -/
def booleanOf? : Cell -> Option Bool
  | .boolean value => some value
  | _ => none

/-- The truth value in the column of a name. -/
def boolean (row : Row) (name : String) : Except DatabaseError Bool :=
  row.read .boolean booleanOf? name

/-- The truth value in the first column. -/
def firstBoolean (row : Row) : Except DatabaseError Bool :=
  match row.columns, row.cells with
  | column :: _, cell :: _ => readCell .boolean booleanOf? (.numbered 0) column cell
  | columns, _ => .error (.columnOutOfRange 0 columns.length)

/-- The instant in the column of a name. -/
def instant (row : Row) (name : String) : Except DatabaseError Instant :=
  row.read .timestamp (fun | .timestamp value => some ⟨value * 1000⟩ | _ => none) name

/-- The row of a user. -/
def user (row : Row) : Except DatabaseError User := do
  return {
    id := ← row.integer "id"
    email := ← row.text "email"
    passwordHash := ← row.text "password_hash"
    profile := ⟨← row.text "steam_url", ← row.text "photo_path"⟩
    createdAt := ← row.instant "created_at" }

/-- The row of a user beside their grant for an app. -/
def appUser (row : Row) : Except DatabaseError AppUser := do
  return ⟨← row.user, ← row.boolean "is_admin"⟩

/-- The row of an app. -/
def app (row : Row) : Except DatabaseError App := do
  return {
    id := ← row.integer "id"
    name := ← row.text "name"
    secret := ← row.text "secret"
    link := ← row.text "link"
    enabled := ← row.boolean "enabled"
    createdAt := ← row.instant "created_at" }

/-- The row of a refresh token. -/
def refreshToken (row : Row) : Except DatabaseError RefreshToken := do
  return {
    digest := ← row.text "token_hash"
    userId := ← row.integer "user_id"
    appId := ← row.integer "app_id"
    expiresAt := ← row.instant "expires_at"
    createdAt := ← row.instant "created_at" }

end Row

namespace Reply

/-- The rows of a reply. -/
def toRows : Reply -> Except DatabaseError (List Row)
  | rows columns cells _ => .ok (cells.map (Row.mk columns))
  | failed state message => .error (.reported state message)

/-- The number of rows that a statement touched. -/
def affected : Reply -> Except DatabaseError Nat
  | rows _ cells reported => .ok (reported.getD cells.length)
  | failed state message => .error (.reported state message)

/-- Every row, read as a record. -/
def all {α : Type} (read : Row -> Except DatabaseError α) (reply : Reply) : Except DatabaseError (List α) := do
  (← reply.toRows).mapM read

/-- The first row, if there is one, read as a record. -/
def first? {α : Type} (read : Row -> Except DatabaseError α) (reply : Reply) :
    Except DatabaseError (Option α) := do
  match ← reply.toRows with
  | [] => return none
  | row :: _ => (read row).map some

/-- The first row, read as a record; there has to be one. -/
def first {α : Type} (read : Row -> Except DatabaseError α) (reply : Reply) : Except DatabaseError α := do
  match ← reply.first? read with
  | some record => return record
  | none => throw .noRow

end Reply

end SingleSignOn.Sql

import SingleSignOn.Digest.Sha2
import SingleSignOn.Sql.Statement

namespace SingleSignOn.Sql

/-!
# Migrations

The tables of the database are made by migrations.  A migration is known by
its version and by the digest of its text; the database keeps a record of
those that were applied.  Before anything is run, that record has to agree
with the migrations at hand.
-/

/-- A migration. -/
structure Migration where
  version : Int
  description : String
  text : String
  deriving DecidableEq, Repr

namespace Migration

/-- The digest of a migration's text. -/
def checksum (migration : Migration) : Bytes :=
  Digest.sha384 (Bytes.ofString migration.text)

/-- The lines of the migration that makes the tables. -/
def initialLines : List String :=
  ["CREATE TABLE IF NOT EXISTS users (",
   "    id BIGSERIAL PRIMARY KEY,",
   "    email TEXT NOT NULL UNIQUE,",
   "    password_hash TEXT NOT NULL,",
   "    steam_url TEXT NOT NULL DEFAULT '',",
   "    photo_path TEXT NOT NULL DEFAULT '',",
   "    created_at TIMESTAMPTZ NOT NULL DEFAULT NOW()",
   ");",
   "",
   "CREATE TABLE IF NOT EXISTS apps (",
   "    id BIGSERIAL PRIMARY KEY,",
   "    name TEXT NOT NULL UNIQUE,",
   "    secret TEXT NOT NULL,",
   "    link TEXT NOT NULL DEFAULT '',",
   "    enabled BOOLEAN NOT NULL DEFAULT TRUE,",
   "    created_at TIMESTAMPTZ NOT NULL DEFAULT NOW()",
   ");",
   "",
   "CREATE TABLE IF NOT EXISTS admins (",
   "    user_id BIGINT NOT NULL REFERENCES users (id) ON UPDATE CASCADE ON DELETE CASCADE,",
   "    app_id BIGINT NOT NULL REFERENCES apps (id) ON UPDATE CASCADE ON DELETE CASCADE,",
   "    is_admin BOOLEAN NOT NULL DEFAULT FALSE,",
   "    created_at TIMESTAMPTZ NOT NULL DEFAULT NOW(),",
   "    PRIMARY KEY (user_id, app_id)",
   ");",
   "",
   "CREATE TABLE IF NOT EXISTS refresh_tokens (",
   "    token_hash TEXT PRIMARY KEY,",
   "    user_id BIGINT NOT NULL REFERENCES users (id) ON UPDATE CASCADE ON DELETE CASCADE,",
   "    app_id BIGINT NOT NULL REFERENCES apps (id) ON UPDATE CASCADE ON DELETE CASCADE,",
   "    expires_at TIMESTAMPTZ NOT NULL,",
   "    created_at TIMESTAMPTZ NOT NULL DEFAULT NOW()",
   ");",
   "",
   "CREATE INDEX IF NOT EXISTS idx_refresh_tokens_owner ON refresh_tokens (user_id, app_id);",
   "CREATE INDEX IF NOT EXISTS idx_refresh_tokens_expires_at ON refresh_tokens (expires_at);"]

/-- The migration that makes the tables. -/
def initial : Migration :=
  ⟨20260101000000, "initial schema", String.join (initialLines.map (· ++ "\n"))⟩

/-- Every migration, by increasing version. -/
def all : List Migration := [initial]

end Migration

/-- A migration that the database says was applied. -/
structure AppliedMigration where
  version : Int
  checksum : Bytes
  deriving DecidableEq, Repr

/-- Why the migrations were not all applied. -/
inductive MigrationError where
  /-- A migration was begun and did not end well. -/
  | dirty (version : Int)
  /-- A migration was applied that is not at hand. -/
  | versionMissing (version : Int)
  /-- A migration was applied whose text was another one. -/
  | versionMismatch (version : Int)
  /-- The database reported an error. -/
  | failed (version : Int) (message : String)
  deriving DecidableEq, Repr

namespace MigrationError

/-- The name of a failure. -/
def name : MigrationError -> String
  | dirty _ => "Dirty"
  | versionMissing _ => "VersionMissing"
  | versionMismatch _ => "VersionMismatch"
  | failed _ _ => "ExecuteMigration"

/-- The text of a failure. -/
def message : MigrationError -> String
  | dirty version => "migration " ++ toString version ++
      " is partially applied; fix and remove row from `_sqlx_migrations` table"
  | versionMissing version => "migration " ++ toString version ++
      " was previously applied but is missing in the resolved migrations"
  | versionMismatch version => "migration " ++ toString version ++
      " was previously applied but has been modified"
  | failed version message => "while executing migration " ++ toString version ++
      ": error returned from database: " ++ message

end MigrationError

/-- What a run of migrations does: the statements sent, and the migrations
recorded as applied. -/
structure MigrationRun where
  statements : List String
  recorded : List Migration
  failure : Option MigrationError
  deriving DecidableEq, Repr

namespace MigrationRun

/-- The run that stops before its first statement. -/
def stopped (failure : MigrationError) : MigrationRun := ⟨[], [], some failure⟩

/-- Runs migrations one after another, each in a transaction.  `fault` is what
the database reports instead of carrying out the text of a migration. -/
def apply (fault : Option String) (applied : List AppliedMigration) : List Migration -> MigrationRun
  | [] => ⟨[], [], none⟩
  | migration :: rest =>
    match applied.reverse.find? fun record => record.version == migration.version with
    | some record =>
      if record.checksum = migration.checksum then apply fault applied rest
      else stopped (.versionMismatch migration.version)
    | none =>
      match fault with
      | some message => ⟨["BEGIN", migration.text], [], some (.failed migration.version message)⟩
      | none =>
        let after := apply fault applied rest
        ⟨"BEGIN" :: migration.text :: "COMMIT" :: after.statements, migration :: after.recorded,
          after.failure⟩

/-- Brings a database up to date. -/
def run (migrations : List Migration) (applied : List AppliedMigration) (dirty : Option Int)
    (fault : Option String) : MigrationRun :=
  match dirty with
  | some version => stopped (.dirty version)
  | none =>
    match applied.find? fun record => !migrations.any fun migration => migration.version == record.version with
    | some record => stopped (.versionMissing record.version)
    | none => apply fault applied migrations

end MigrationRun

end SingleSignOn.Sql

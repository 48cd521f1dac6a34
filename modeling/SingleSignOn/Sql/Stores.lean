import SingleSignOn.Sql.Record
import SingleSignOn.Store.Credentials
import SingleSignOn.Store.RefreshTokens

namespace SingleSignOn.Sql

/-!
# The stores in a database

Every call to a store is one statement and a reading of its reply.  That the
database carries a single statement out as a whole is what the stores rely
on: a conditional update cannot be split, and of two deletions of one token
one sees no row.

A violated unique constraint is the database's way to say that an email, a
name or a token is taken.
-/

/-- A statement with the reading of its reply. -/
structure Query (α : Type) where
  statement : Statement
  read : Reply -> Except DatabaseError α
  /-- The meaning of a violated unique constraint, where it has one. -/
  taken : Option Error := none

namespace Query

/-- The failure that a database error stands for. -/
def failure {α : Type} (query : Query α) (cause : DatabaseError) : Error :=
  match query.taken with
  | some error => if cause.isUniqueViolation then error else .database cause
  | none => .database cause

/-- What a reply means. -/
def interpret {α : Type} (query : Query α) (reply : Reply) : Except Error α :=
  (query.read reply).mapError query.failure

end Query

/-- The columns of a user. -/
def userColumns : String := "id, email, password_hash, steam_url, photo_path, created_at"

/-- The columns of an app. -/
def appColumns : String := "id, name, secret, link, enabled, created_at"

/-- Whether a statement touched any row. -/
def touched (reply : Reply) : Except DatabaseError Bool :=
  reply.affected.map fun count => 0 < count

/-- The result of a statement does not matter. -/
def done (reply : Reply) : Except DatabaseError Unit :=
  reply.affected.map fun _ => ()

open Parameter (ofInstant ofText?)

/-- The statement of a call to the store of users, apps and grants. -/
def credentialQuery : (call : CredentialCall) -> Query call.Reply
  | .findUserByEmail email =>
    { statement := ⟨"SELECT " ++ userColumns ++ " FROM users WHERE email = $1", [.text email]⟩
      read := Reply.first? Row.user }
  | .findUserById id =>
    { statement := ⟨"SELECT " ++ userColumns ++ " FROM users WHERE id = $1", [.integer id]⟩
      read := Reply.first? Row.user }
  | .listUsers =>
    { statement := ⟨"SELECT " ++ userColumns ++ " FROM users ORDER BY id", []⟩
      read := Reply.all Row.user }
  | .createUser user =>
    { statement := ⟨"INSERT INTO users (email, password_hash, steam_url, photo_path) " ++
        "VALUES ($1, $2, $3, $4) RETURNING " ++ userColumns,
        [.text user.email, .text user.passwordHash, .text user.profile.steamUrl, .text user.profile.photoPath]⟩
      read := Reply.first Row.user
      taken := some .userExists }
  | .updateUser id update =>
    { statement := ⟨"UPDATE users SET email = COALESCE($2, email), " ++
        "password_hash = COALESCE($3, password_hash), steam_url = COALESCE($4, steam_url), " ++
        "photo_path = COALESCE($5, photo_path) WHERE id = $1 RETURNING " ++ userColumns,
        [.integer id, ofText? update.email, ofText? update.passwordHash,
          ofText? (update.profile.map Profile.steamUrl), ofText? (update.profile.map Profile.photoPath)]⟩
      read := Reply.first? Row.user
      taken := some .userExists }
  | .deleteUser id =>
    { statement := ⟨"DELETE FROM users WHERE id = $1", [.integer id]⟩
      read := touched }
  | .findAppById id =>
    { statement := ⟨"SELECT " ++ appColumns ++ " FROM apps WHERE id = $1", [.integer id]⟩
      read := Reply.first? Row.app }
  | .listApps =>
    { statement := ⟨"SELECT " ++ appColumns ++ " FROM apps ORDER BY id", []⟩
      read := Reply.all Row.app }
  | .createApp app =>
    { statement := ⟨"INSERT INTO apps (name, secret, link) VALUES ($1, $2, $3) RETURNING " ++ appColumns,
        [.text app.name, .text app.secret, .text app.link]⟩
      read := Reply.first Row.app
      taken := some CredentialStore.appNameTaken }
  | .updateApp id update =>
    { statement := ⟨"UPDATE apps SET name = COALESCE($2, name), link = COALESCE($3, link) " ++
        "WHERE id = $1 RETURNING " ++ appColumns, [.integer id, ofText? update.name, ofText? update.link]⟩
      read := Reply.first? Row.app
      taken := some CredentialStore.appNameTaken }
  | .deleteApp id =>
    { statement := ⟨"DELETE FROM apps WHERE id = $1", [.integer id]⟩
      read := touched }
  | .setAppEnabled id enabled =>
    { statement := ⟨"UPDATE apps SET enabled = $2 WHERE id = $1", [.integer id, .boolean enabled]⟩
      read := touched }
  | .isAdmin userId appId =>
    { statement := ⟨"SELECT is_admin FROM admins WHERE user_id = $1 AND app_id = $2",
        [.integer userId, .integer appId]⟩
      read := fun reply => (reply.first? Row.firstBoolean).map fun found => found.getD false }
  | .setAdmin userId appId isAdmin =>
    { statement := ⟨"INSERT INTO admins (user_id, app_id, is_admin) VALUES ($1, $2, $3) " ++
        "ON CONFLICT (user_id, app_id) DO UPDATE SET is_admin = EXCLUDED.is_admin",
        [.integer userId, .integer appId, .boolean isAdmin]⟩
      read := done }
  | .removeAdmin userId appId =>
    { statement := ⟨"DELETE FROM admins WHERE user_id = $1 AND app_id = $2", [.integer userId, .integer appId]⟩
      read := touched }
  | .listUsersForApp appId =>
    { statement := ⟨"SELECT u.id, u.email, u.password_hash, u.steam_url, u.photo_path, u.created_at, " ++
        "a.is_admin FROM users u JOIN admins a ON a.user_id = u.id WHERE a.app_id = $1 ORDER BY u.id",
        [.integer appId]⟩
      read := Reply.all Row.appUser }
  | .ping =>
    { statement := ⟨"SELECT 1", []⟩
      read := done }

/-- The statement of a call to the store of refresh tokens. -/
def tokenQuery : (call : TokenCall) -> Query call.Reply
  | .create token =>
    { statement := ⟨"INSERT INTO refresh_tokens (token_hash, user_id, app_id, expires_at) " ++
        "VALUES ($1, $2, $3, $4)",
        [.text token.digest, .integer token.userId, .integer token.appId, ofInstant token.expiresAt]⟩
      read := done
      taken := some TokenStore.tokenTaken }
  | .find digest =>
    { statement := ⟨"SELECT token_hash, user_id, app_id, expires_at, created_at FROM refresh_tokens " ++
        "WHERE token_hash = $1", [.text digest]⟩
      read := Reply.first? Row.refreshToken }
  | .deleteByToken digest =>
    { statement := ⟨"DELETE FROM refresh_tokens WHERE token_hash = $1", [.text digest]⟩
      read := Reply.affected }
  | .deleteByOwner userId appId =>
    { statement := ⟨"DELETE FROM refresh_tokens WHERE user_id = $1 AND app_id = $2",
        [.integer userId, .integer appId]⟩
      read := Reply.affected }
  | .deleteByUser userId =>
    { statement := ⟨"DELETE FROM refresh_tokens WHERE user_id = $1", [.integer userId]⟩
      read := Reply.affected }
  | .deleteByApp appId =>
    { statement := ⟨"DELETE FROM refresh_tokens WHERE app_id = $1", [.integer appId]⟩
      read := Reply.affected }
  | .deleteExpired before =>
    { statement := ⟨"DELETE FROM refresh_tokens WHERE expires_at <= $1", [ofInstant before]⟩
      read := Reply.affected }

/-- The statement of a call. -/
def query : (call : StoreCall) -> Query call.Reply
  | .credentials call => credentialQuery call
  | .tokens call => tokenQuery call

/-- A database that gives scripted replies, with the statements that it was
sent, the latest first. -/
structure Script where
  replies : List Reply
  asked : List Statement

namespace Script

/-- The reply to a statement for which none is scripted. -/
def unscripted : Reply := .failed "XX000" "no reply scripted"

/-- Sends a statement. -/
def send (script : Script) (statement : Statement) : Reply × Script :=
  match script.replies with
  | [] => (unscripted, { script with asked := statement :: script.asked })
  | reply :: replies => (reply, ⟨replies, statement :: script.asked⟩)

/-- Answers a call. -/
def answer (script : Script) (call : StoreCall) : Except Error call.Reply × Script :=
  let (reply, after) := script.send (query call).statement
  ((query call).interpret reply, after)

end Script

end SingleSignOn.Sql

import SingleSignOn.Service.Basic
import SingleSignOn.Text.Blank

namespace SingleSignOn.Service

/-!
# Accounts

What users do with their own records.  A new password ends every session
that was opened with the old one, and a deleted user takes their refresh
tokens along.
-/

/-- The record of a user. -/
def userInfo (service : Service) (userId : UserId) : Operation User := do
  let found ← service.credentials (.findUserById userId)
  Operation.orFail .userNotFound found

/-- Every user, by increasing id. -/
def listUsers (service : Service) : Operation (List User) :=
  service.credentials .listUsers

/-- Applies a partial update.  A new password signs the user out of every app. -/
def updateUser (service : Service) (userId : UserId) (change : ProfileChange) : Operation User := do
  if change.email.any Text.isBlank then throw (.badRequest "Email must not be empty")
  if change.password.any String.isEmpty then throw (.badRequest "Password must not be empty")
  let passwordHash ← match change.password with
    | some password => do
      let hash ← Operation.ofProgram (service.hashPassword password)
      pure (some hash)
    | none => pure none
  let update : UserUpdate := ⟨change.email, passwordHash, change.profile⟩
  if update.isEmpty then service.userInfo userId
  else do
    let found ← service.credentials (.updateUser userId update)
    let user ← Operation.orFail .userNotFound found
    if passwordHash.isSome then
      let _ ← service.tokens (.deleteByUser userId)
    return user

/-- Deletes a user.  Their refresh tokens go first, so that a failure in
between leaves a user without sessions and not sessions without a user. -/
def deleteUser (service : Service) (userId : UserId) : Operation Unit := do
  let _ ← service.tokens (.deleteByUser userId)
  let found ← service.credentials (.deleteUser userId)
  if !found then throw .userNotFound

end SingleSignOn.Service

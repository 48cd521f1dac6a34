import SingleSignOn.Time.Instant

namespace SingleSignOn

/-!
# Users

A user is identified by a number that is never given out twice, and found by
an email that no two users share.  The password is kept only as a hash.
-/

/-- The number of a user. -/
abbrev UserId := Int

/-- What a user shows of themselves. -/
structure Profile where
  steamUrl : String
  photoPath : String
  deriving DecidableEq, Repr, Inhabited

/-- The profile of a user who gave none. -/
def Profile.empty : Profile := ⟨"", ""⟩

/-- A registered user. -/
structure User where
  id : UserId
  email : String
  passwordHash : String
  profile : Profile
  createdAt : Instant
  deriving DecidableEq, Repr, Inhabited

/-- A user to be registered. -/
structure NewUser where
  email : String
  passwordHash : String
  profile : Profile
  deriving DecidableEq, Repr, Inhabited

/-- A partial update of a stored user; absent parts stay as they are. -/
structure UserUpdate where
  email : Option String
  passwordHash : Option String
  profile : Option Profile
  deriving DecidableEq, Repr, Inhabited

/-- Changes asked for by the user, with the new password in plain text. -/
structure ProfileChange where
  email : Option String
  password : Option String
  profile : Option Profile
  deriving DecidableEq, Repr, Inhabited

/-- A user with a grant record for one app. -/
structure AppUser where
  user : User
  isAdmin : Bool
  deriving DecidableEq, Repr, Inhabited

namespace UserUpdate

/-- Whether nothing is to be changed. -/
def isEmpty (update : UserUpdate) : Bool :=
  update.email.isNone && update.passwordHash.isNone && update.profile.isNone

/-- The user after the update. -/
def applyTo (update : UserUpdate) (user : User) : User :=
  { user with
    email := update.email.getD user.email
    passwordHash := update.passwordHash.getD user.passwordHash
    profile := update.profile.getD user.profile }

end UserUpdate

end SingleSignOn

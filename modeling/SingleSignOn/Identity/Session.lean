import SingleSignOn.Identity.App
import SingleSignOn.Identity.User

namespace SingleSignOn

/-!
# Sessions

Login and refresh hand out a pair of tokens.  The access token carries
claims and is checked by its signature alone.  The refresh token is a random
text of which only the digest is stored; it may be used once.
-/

/-- What an access token says about its bearer. -/
structure AccessClaims where
  userId : UserId
  email : String
  appId : AppId
  isAdmin : Bool
  /-- Unix seconds. -/
  expiresAt : Int
  deriving DecidableEq, Repr, Inhabited

/-- The token pair handed out by login and refresh. -/
structure Session where
  accessToken : String
  refreshToken : String
  /-- Unix seconds at which the access token expires. -/
  expiresAt : Int
  deriving DecidableEq, Repr, Inhabited

/-- A refresh token to be stored. -/
structure NewRefreshToken where
  digest : String
  userId : UserId
  appId : AppId
  expiresAt : Instant
  deriving DecidableEq, Repr, Inhabited

/-- A stored refresh token. -/
structure RefreshToken where
  digest : String
  userId : UserId
  appId : AppId
  expiresAt : Instant
  createdAt : Instant
  deriving DecidableEq, Repr, Inhabited

namespace RefreshToken

/-- A token is expired from its expiry on, the boundary included. -/
def isExpiredAt (token : RefreshToken) (now : Instant) : Bool :=
  token.expiresAt.reached now

end RefreshToken

end SingleSignOn

import SingleSignOn.Store.Credentials

namespace SingleSignOn

/-!
# Refresh tokens in memory

Tokens are kept by digest.  Each deletion reports how many tokens it
removed; of several deletions of one token at most one reports that it
removed it, which is what makes a refresh token good for one use.
-/

/-- The store of refresh tokens. -/
structure TokenStore where
  tokens : Table String RefreshToken

namespace TokenStore

/-- The store without any token. -/
def empty : TokenStore := ⟨∅⟩

/-- The failure of a digest that is stored already. -/
def tokenTaken : Error := .conflict "Refresh token already exists"

/-- Stores a token. -/
def create (store : TokenStore) (now : Instant) (token : NewRefreshToken) : Except Error Unit × TokenStore :=
  if store.tokens.contains token.digest then (.error tokenTaken, store)
  else (.ok (), ⟨store.tokens.insert token.digest
    ⟨token.digest, token.userId, token.appId, token.expiresAt, now⟩⟩)

/-- Removes the tokens that a condition holds of, and counts them. -/
def deleteWhere (store : TokenStore) (condition : RefreshToken -> Bool) : Nat × TokenStore :=
  let kept := store.tokens.filter fun _ token => !condition token
  (store.tokens.size - kept.size, ⟨kept⟩)

/-- Removes one token. -/
def deleteByToken (store : TokenStore) (digest : String) : Nat × TokenStore :=
  (if store.tokens.contains digest then 1 else 0, ⟨store.tokens.erase digest⟩)

/-- Answers a call. -/
def answer (store : TokenStore) (now : Instant) : (call : TokenCall) -> Except Error call.Reply × TokenStore
  | .create token => store.create now token
  | .find digest => (.ok store.tokens[digest]?, store)
  | .deleteByToken digest => let (count, after) := store.deleteByToken digest; (.ok count, after)
  | .deleteByOwner userId appId =>
    let (count, after) := store.deleteWhere fun token => token.userId == userId && token.appId == appId
    (.ok count, after)
  | .deleteByUser userId =>
    let (count, after) := store.deleteWhere fun token => token.userId == userId
    (.ok count, after)
  | .deleteByApp appId =>
    let (count, after) := store.deleteWhere fun token => token.appId == appId
    (.ok count, after)
  | .deleteExpired before =>
    let (count, after) := store.deleteWhere fun token => token.isExpiredAt before
    (.ok count, after)

end TokenStore

end SingleSignOn

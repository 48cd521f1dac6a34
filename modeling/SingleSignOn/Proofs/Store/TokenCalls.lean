import SingleSignOn.Store.Faults

namespace SingleSignOn

/-!
# What store calls do to one refresh token

The store of refresh tokens acts on each digest by itself: the record of a
digest after a call is a function of the record before it
(`TokenStore.getElem?_answer`).  A call that is refused or given up changes
nothing, and nothing but `create` ever adds a record.
-/

namespace TokenCall

/-- The record of a digest after a call, from the one before it. -/
def effect (now : Instant) (digest : String) :
    TokenCall -> Option RefreshToken -> Option RefreshToken
  | .create token, none =>
    if token.digest = digest then some ⟨token.digest, token.userId, token.appId, token.expiresAt, now⟩ else none
  | .create _, some record => some record
  | .find _, found => found
  | .deleteByToken gone, found => if gone = digest then none else found
  | .deleteByOwner userId appId, found =>
    found.filter fun record => !(record.userId == userId && record.appId == appId)
  | .deleteByUser userId, found => found.filter fun record => !(record.userId == userId)
  | .deleteByApp appId, found => found.filter fun record => !(record.appId == appId)
  | .deleteExpired before, found => found.filter fun record => !record.isExpiredAt before

end TokenCall

/-- The record of a digest after a store call, from the one before it. -/
def StoreCall.effect (now : Instant) (digest : String) :
    StoreCall -> Option RefreshToken -> Option RefreshToken
  | .credentials _, found => found
  | .tokens call, found => call.effect now digest found

/-- The call that stores a refresh token. -/
def StoreCall.created? : StoreCall -> Option NewRefreshToken
  | .tokens (.create token) => some token
  | _ => none

/-- Whether a call that ends this way was carried out. -/
def Ending.isEffective : Ending -> Bool
  | .refused _ => false
  | .givenUp => false
  | .carriedOut => true
  | .miscounted => true

theorem StoreCall.effect_le {request : StoreCall} (adds : request.created? = none) {now : Instant}
    {digest : String} {found : Option RefreshToken} {record : RefreshToken}
    (kept : request.effect now digest found = some record) : found = some record := by
  cases request with
  | credentials call => exact kept
  | tokens call =>
    cases call with
    | create token => cases adds
    | find sought => exact kept
    | deleteByToken gone =>
      simp only [effect, TokenCall.effect] at kept
      split at kept
      · cases kept
      · exact kept
    | deleteByOwner userId appId => exact (Option.filter_eq_some_iff.mp kept).1
    | deleteByUser userId => exact (Option.filter_eq_some_iff.mp kept).1
    | deleteByApp appId => exact (Option.filter_eq_some_iff.mp kept).1
    | deleteExpired before => exact (Option.filter_eq_some_iff.mp kept).1

namespace TokenStore

variable (store : TokenStore) (now : Instant)

theorem getElem?_deleteWhere (condition : RefreshToken -> Bool) (digest : String) :
    (store.deleteWhere condition).2.tokens[digest]? =
      store.tokens[digest]?.filter fun record => !condition record := by
  simp only [deleteWhere, Std.ExtTreeMap.getElem?_filter']

theorem getElem?_deleteByToken (gone digest : String) :
    (store.deleteByToken gone).2.tokens[digest]? = if gone = digest then none else store.tokens[digest]? := by
  simp only [deleteByToken, Std.ExtTreeMap.getElem?_erase, Std.LawfulEqCmp.compare_eq_iff_eq]

theorem create_of_some (token : NewRefreshToken) {record : RefreshToken}
    (taken : store.tokens[token.digest]? = some record) :
    store.create now token = (.error tokenTaken, store) := by
  simp only [create, Std.ExtTreeMap.contains_eq_isSome_getElem?, taken, Option.isSome_some, if_true]

theorem create_of_none (token : NewRefreshToken) (free : store.tokens[token.digest]? = none) :
    store.create now token = (.ok (), ⟨store.tokens.insert token.digest
      ⟨token.digest, token.userId, token.appId, token.expiresAt, now⟩⟩) := by
  simp only [create, Std.ExtTreeMap.contains_eq_isSome_getElem?, free, Option.isSome_none,
    Bool.false_eq_true, if_false]

theorem getElem?_create (token : NewRefreshToken) (digest : String) :
    (store.create now token).2.tokens[digest]? =
      (TokenCall.create token).effect now digest store.tokens[digest]? := by
  cases stored : store.tokens[token.digest]? with
  | some record =>
    rw [create_of_some store now token stored]
    cases found : store.tokens[digest]? with
    | some other => rfl
    | none =>
      have different : token.digest ≠ digest := by
        rintro rfl
        rw [stored] at found
        cases found
      exact (if_neg different).symm
  | none =>
    rw [create_of_none store now token stored]
    simp only [Std.ExtTreeMap.getElem?_insert, Std.LawfulEqCmp.compare_eq_iff_eq]
    by_cases same : token.digest = digest
    · subst same
      rw [if_pos rfl, stored]
      exact (if_pos rfl).symm
    · rw [if_neg same]
      cases found : store.tokens[digest]? with
      | some other => rfl
      | none => exact (if_neg same).symm

/-- A call acts on each digest by itself. -/
theorem getElem?_answer (call : TokenCall) (digest : String) :
    (store.answer now call).2.tokens[digest]? = call.effect now digest store.tokens[digest]? := by
  cases call with
  | create token => exact getElem?_create store now token digest
  | find sought => rfl
  | deleteByToken gone => exact getElem?_deleteByToken store gone digest
  | deleteByOwner userId appId => exact getElem?_deleteWhere store _ digest
  | deleteByUser userId => exact getElem?_deleteWhere store _ digest
  | deleteByApp appId => exact getElem?_deleteWhere store _ digest
  | deleteExpired before => exact getElem?_deleteWhere store _ digest

end TokenStore

namespace World

/-- The record of a digest in the store of refresh tokens. -/
def record? (world : World) (digest : String) : Option RefreshToken :=
  world.stores.tokens.tokens[digest]?

variable (world : World)

theorem record?_answer (request : StoreCall) (digest : String) :
    (world.answer request).2.record? digest = request.effect world.now digest (world.record? digest) := by
  cases request with
  | credentials call => rfl
  | tokens call => exact world.stores.tokens.getElem?_answer world.now call digest

/-- A call that is not carried out changes no record. -/
theorem record?_endCall (request : StoreCall) (ending : Ending) (digest : String) :
    (world.endCall request ending).2.record? digest =
      if ending.isEffective then request.effect world.now digest (world.record? digest)
      else world.record? digest := by
  cases ending with
  | refused error => rfl
  | givenUp => rfl
  | carriedOut => exact world.record?_answer request digest
  | miscounted => exact world.record?_answer request digest

/-- Nothing but `create` adds a record. -/
theorem record?_of_endCall {request : StoreCall} (adds : request.created? = none) (ending : Ending)
    {digest : String} {record : RefreshToken}
    (kept : (world.endCall request ending).2.record? digest = some record) :
    world.record? digest = some record := by
  rw [record?_endCall] at kept
  split at kept
  · exact StoreCall.effect_le adds kept
  · exact kept

theorem record?_of_create (token : NewRefreshToken) (ending : Ending) {digest : String}
    {record : RefreshToken}
    (stored : (world.endCall (.tokens (.create token)) ending).2.record? digest = some record) :
    world.record? digest = some record ∨
      (token.digest = digest ∧ world.record? digest = none ∧
        record = ⟨token.digest, token.userId, token.appId, token.expiresAt, world.now⟩) := by
  rw [record?_endCall] at stored
  split at stored
  · cases found : world.record? digest with
    | some other =>
      rw [found] at stored
      exact .inl stored
    | none =>
      rw [found] at stored
      simp only [StoreCall.effect, TokenCall.effect] at stored
      split at stored
      · next same => exact .inr ⟨same, rfl, (Option.some.inj stored).symm⟩
      · cases stored
  · exact .inl stored

theorem endCall_create_of_some (token : NewRefreshToken) {record : RefreshToken}
    (taken : world.record? token.digest = some record) :
    world.endCall (.tokens (.create token)) .carriedOut = (some (.error TokenStore.tokenTaken), world) := by
  have answered := world.stores.tokens.create_of_some world.now token taken
  simp only [endCall, answer, Stores.answer, TokenStore.answer, answered]

theorem create_reply (token : NewRefreshToken) (free : world.record? token.digest = none) :
    (world.endCall (.tokens (.create token)) .carriedOut).1 = some (.ok ()) := by
  have answered := world.stores.tokens.create_of_none world.now token free
  simp only [endCall, answer, Stores.answer, TokenStore.answer, answered]

theorem record?_create_self (token : NewRefreshToken) (free : world.record? token.digest = none) :
    (world.endCall (.tokens (.create token)) .carriedOut).2.record? token.digest =
      some ⟨token.digest, token.userId, token.appId, token.expiresAt, world.now⟩ := by
  refine (world.record?_answer (.tokens (.create token)) token.digest).trans ?_
  rw [free]
  exact if_pos rfl

theorem record?_create_of_ne (token : NewRefreshToken) (ending : Ending) {digest : String}
    (different : digest ≠ token.digest) :
    (world.endCall (.tokens (.create token)) ending).2.record? digest = world.record? digest := by
  rw [record?_endCall]
  split
  · cases world.record? digest with
    | none => exact if_neg (Ne.symm different)
    | some record => rfl
  · rfl

/-- A look-up of a refresh token that is answered with success tells of its record. -/
theorem record?_of_find {digest : String} {ending : Ending} {found : Option RefreshToken}
    (replied : (world.endCall (.tokens (.find digest)) ending).1 = some (.ok found)) :
    world.record? digest = found := by
  cases ending with
  | refused error => cases replied
  | givenUp => cases replied
  | carriedOut => exact Except.ok.inj (Option.some.inj replied)
  | miscounted => exact Except.ok.inj (Option.some.inj replied)

/-- A removal of one token counts it if it was there. -/
theorem deleteByToken_reply (digest : String) (ending : Ending) :
    (world.endCall (.tokens (.deleteByToken digest)) ending).1 =
      match ending with
      | .refused error => some (.error error)
      | .givenUp => none
      | .carriedOut => some (.ok (if (world.record? digest).isSome then 1 else 0))
      | .miscounted => some (.ok 0) := by
  cases ending with
  | refused error => rfl
  | givenUp => rfl
  | miscounted => rfl
  | carriedOut =>
    simp only [endCall, answer, Stores.answer, TokenStore.answer, TokenStore.deleteByToken,
      Std.ExtTreeMap.contains_eq_isSome_getElem?, record?]
    rfl

theorem record?_deleteByToken {digest : String} {ending : Ending}
    (done : ending.isEffective = true) :
    (world.endCall (.tokens (.deleteByToken digest)) ending).2.record? digest = none := by
  rw [record?_endCall, if_pos done]
  exact if_pos rfl

theorem record?_deleteByToken_of_ne (gone : String) (ending : Ending) {digest : String}
    (different : digest ≠ gone) :
    (world.endCall (.tokens (.deleteByToken gone)) ending).2.record? digest = world.record? digest := by
  rw [record?_endCall]
  split
  · exact if_neg different.symm
  · rfl

end World

end SingleSignOn

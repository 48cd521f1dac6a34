import SingleSignOn.Proofs.AccessToken.Forgery

namespace SingleSignOn

/-!
# Both readings of a payload find the same app

Before its signature is checked, a token is read for the app that it names.
After it the claims are read, and the app once more.  The two readings take
different members of the payload, and an array they take by its places, but
whatever payload passes both has one app for both.  So verification would be
the same without its second look at the app: there is always one, and it is
never another.
-/

namespace AccessToken

open Json

/-- The first reading of a token finds an app, or that the token names none. -/
def Shows (token : String) (found : Option AppId) : Prop :=
  ∃ (parts : Parts) (payload : Bytes), parts.Joins token ∧
    Base64.decode? Base64.urlSafe parts.payload = some payload ∧ unverifiedAppId? payload = .ok found

theorem Names.shows {token : String} {appId : AppId} (names : Names token appId) : Shows token (some appId) := by
  rcases names with ⟨parts, header, payload, legible, named⟩
  exact ⟨parts, payload, legible.joins, legible.payloadRead, named⟩

/-- The claims of a signed token, with no second look at the app. -/
def acceptSigned (appId : AppId) (claims : SignedClaims) : Except Rejection AccessClaims := do
  let some userId := claims.userId | throw (.missingClaim "uid")
  if claims.tokenType ≠ some accessTokenType then throw .wrongType
  return ⟨userId, claims.email, appId, claims.isAdmin, claims.expiresAt⟩

/-- A payload that both readings take has one app for both. -/
theorem appId_eq_of_unverifiedAppId? {payload : Bytes} {found : Option AppId} {claims : SignedClaims}
    (shown : unverifiedAppId? payload = .ok found) (read : signedClaims? (parse payload) = .ok claims) :
    claims.appId = found := by
  rcases bind_eq_ok_iff.mp shown with ⟨appId, _, rest⟩
  rcases bind_eq_ok_iff.mp rest with ⟨_, registered, _⟩
  exact Except.ok.inj ((unverifiedAppId?_of_signedClaims? read registered).symm.trans shown)

section

variable {primitives : Primitives} {secret token : String} {now : Instant}

theorem appId_eq_of_signedPayload {found : Option AppId} {claims : SignedClaims} (shown : Shows token found)
    (accepted : signedPayload primitives token secret now = .ok claims) : claims.appId = found := by
  rcases shown with ⟨parts, payload, joins, payloadRead, read⟩
  rcases (signedPayload_eq_ok_iff _ _ _ _ _).mp accepted with ⟨others, content, joined, _, contentRead, signed, _⟩
  cases ((ofToken?_eq_some_iff token parts).mpr joins).symm.trans ((ofToken?_eq_some_iff token others).mpr joined)
  cases payloadRead.symm.trans contentRead
  exact appId_eq_of_unverifiedAppId? read signed

/-- The second look at the app changes nothing. -/
theorem verifyFor_eq_bind {appId : AppId} (shown : Shows token (some appId)) :
    verifyFor primitives token appId secret now =
      (signedPayload primitives token secret now).bind (acceptSigned appId) := by
  unfold verifyFor
  cases accepted : signedPayload primitives token secret now with
  | error rejection => rfl
  | ok claims =>
    have same := appId_eq_of_signedPayload shown accepted
    rcases claims with ⟨userId, _, email, isAdmin, expiresAt, tokenType⟩
    obtain rfl := same
    cases userId with
    | none => rfl
    | some userId =>
      simp only [acceptSigned, Except.bind, bind, ne_eq, not_true_eq_false, if_false]

/-- How a payload is refused whose app has not been looked at yet. -/
theorem mem_of_signedPayload_eq_error {rejection : Rejection}
    (refused : signedPayload primitives token secret now = .error rejection) :
    rejection ∈ [.malformed, .invalidSignature, .missingClaim "exp", .expired] := by
  unfold signedPayload at refused
  dsimp only at refused
  repeat' split at refused
  all_goals cases refused
  all_goals decide

/-- A token is refused with its payload, or for having no user or another type. -/
theorem refusal_cases {appId : AppId} (shown : Shows token (some appId)) {rejection : Rejection}
    (refused : verifyFor primitives token appId secret now = .error rejection) :
    signedPayload primitives token secret now = .error rejection ∨
      rejection ∈ [.missingClaim "uid", .wrongType] := by
  rw [verifyFor_eq_bind shown] at refused
  cases accepted : signedPayload primitives token secret now with
  | error early =>
    rw [accepted] at refused
    exact .inl (congrArg Except.error (Except.error.inj refused))
  | ok claims =>
    rw [accepted] at refused
    rcases claims with ⟨_ | userId, named, email, isAdmin, expiresAt, tokenType⟩
    · cases refused
      exact .inr List.mem_cons_self
    · change (if _ then _ else _) = _ at refused
      split at refused
      · cases refused
        exact .inr (List.mem_cons_of_mem _ List.mem_cons_self)
      · cases refused

/-- The second stage refuses no token for naming no app. -/
theorem verifyFor_ne_missing_app {appId : AppId} (shown : Shows token (some appId)) :
    verifyFor primitives token appId secret now ≠ .error (.missingClaim "app_id") := by
  intro refused
  rcases refusal_cases shown refused with early | late
  · exact absurd (mem_of_signedPayload_eq_error early) (by decide)
  · exact absurd late (by decide)

/-- The second stage refuses a token for its signature, and never for another app than the first has found. -/
theorem verifyFor_eq_invalidSignature_iff {appId : AppId} (shown : Shows token (some appId)) :
    verifyFor primitives token appId secret now = .error .invalidSignature ↔ IsForged primitives secret token := by
  refine ⟨fun refused => ?_, fun forged => verifyFor_of_isForged forged appId⟩
  rcases refusal_cases shown refused with early | late
  · exact signedPayload_eq_invalidSignature_iff.mp early
  · exact absurd late (by decide)

end

end AccessToken

namespace Service

open AccessToken

/-- Verification with no second look at the app. -/
def verifyTokenOnce (service : Service) (token : String)
    (lookup : AppId -> Program (Except Error (Option String))) : Program (Except Rejection AccessClaims) :=
  match claimedApp token with
  | .error rejection => return .error rejection
  | .ok appId => do
    match ← lookup appId with
    | .error cause => return .error (.lookup cause)
    | .ok none => return .error .unknownApp
    | .ok (some secret) =>
      let now ← Program.now
      return (signedPayload service.primitives token secret now).bind (acceptSigned appId)

theorem verifyToken_eq_once (service : Service) (token : String)
    (lookup : AppId -> Program (Except Error (Option String))) :
    service.verifyToken token lookup = service.verifyTokenOnce token lookup := by
  unfold verifyToken verifyTokenOnce
  cases claimed : claimedApp token with
  | error rejection => rfl
  | ok appId =>
    have shown := ((claimedApp_eq_ok_iff token appId).mp claimed).shows
    refine congrArg (lookup appId).bind (funext fun answer => ?_)
    rcases answer with cause | _ | secret
    · rfl
    · rfl
    · exact congrArg Program.clock (funext fun now => congrArg Program.done (verifyFor_eq_bind shown))

section

variable {service : Service} {token : String} {lookup : AppId -> Program (Except Error (Option String))}
  {mishaps : Mishaps} {passage : Passage}

/-- A token is refused for naming no app before any look-up, or not at all. -/
theorem missing_app_iff :
    ((service.verifyToken token lookup).runUnder mishaps passage).1 = .error (.missingClaim "app_id") ↔
      claimedApp token = .error (.missingClaim "app_id") := by
  rcases service.runUnder_verifyToken_cases token lookup mishaps passage with
    ⟨early, claimed, told⟩ | ⟨appId, answer, later, claimed, _, told⟩
  · rw [told, claimed, Except.error.injEq, Except.error.injEq]
  · have names := (claimedApp_eq_ok_iff token appId).mp claimed
    rw [told, claimed]
    refine ⟨fun refused => ?_, nofun⟩
    rcases answer with cause | _ | secret
    · cases refused
    · cases refused
    · exact absurd refused (verifyFor_ne_missing_app names.shows)

/-- A token is refused for its signature if and only if it is forged under the secret that is found for its app. -/
theorem invalid_signature_iff :
    ((service.verifyToken token lookup).runUnder mishaps passage).1 = .error .invalidSignature ↔
      ∃ appId secret, Names token appId ∧
        ((lookup appId).runUnder mishaps passage).1 = .ok (some secret) ∧
        IsForged service.primitives secret token := by
  simp only [← claimedApp_eq_ok_iff]
  rcases service.runUnder_verifyToken_cases token lookup mishaps passage with
    ⟨early, claimed, told⟩ | ⟨appId, answer, later, claimed, answered, told⟩
  · rw [told]
    constructor
    · intro refused
      cases refused
      exact absurd (mem_of_claimedApp_eq_error claimed) (by decide)
    · rintro ⟨appId, _, named, _⟩
      cases claimed.symm.trans named
  · have shown := ((claimedApp_eq_ok_iff token appId).mp claimed).shows
    rw [told]
    constructor
    · intro refused
      rcases answer with cause | _ | secret
      · cases refused
      · cases refused
      · exact ⟨appId, secret, claimed, congrArg Prod.fst answered, (verifyFor_eq_invalidSignature_iff shown).mp refused⟩
    · rintro ⟨other, secret, named, found, forged⟩
      cases claimed.symm.trans named
      rw [answered] at found
      cases found
      exact verifyFor_of_isForged forged appId

end

/-- If the first reading of a token finds an app, or that there is none, then the second reading finds the same
whenever it finds claims.  So the second look at the app can be left out of verification: that no app is named is
told by the first stage alone, and a signature is called wrong only if it is. -/
theorem both_readings_find_the_same_app (service : Service) (token : String)
    (lookup : AppId -> Program (Except Error (Option String))) (mishaps : Mishaps) (passage : Passage) :
    (forall found secret now claims, Shows token found ->
      signedPayload service.primitives token secret now = .ok claims -> claims.appId = found) ∧
    service.verifyToken token lookup = service.verifyTokenOnce token lookup ∧
    (((service.verifyToken token lookup).runUnder mishaps passage).1 = .error (.missingClaim "app_id") ↔
      claimedApp token = .error (.missingClaim "app_id")) ∧
    (((service.verifyToken token lookup).runUnder mishaps passage).1 = .error .invalidSignature ↔
      ∃ appId secret, Names token appId ∧
        ((lookup appId).runUnder mishaps passage).1 = .ok (some secret) ∧
        IsForged service.primitives secret token) :=
  ⟨fun _ _ _ _ shown accepted => appId_eq_of_signedPayload shown accepted, service.verifyToken_eq_once token lookup,
    missing_app_iff, invalid_signature_iff⟩

end Service

namespace Sample

open AccessToken

section

variable (primitives : Primitives) (secret : String) (payload : Bytes)

/-- The parts of a token that is signed, whatever its payload is. -/
def signedParts : Parts where
  header := Base64.encode Base64.urlSafe headerBytes
  payload := Base64.encode Base64.urlSafe payload
  signature := signatureText primitives secret (String.ofList
    (Base64.encode Base64.urlSafe headerBytes ++ '.' :: Base64.encode Base64.urlSafe payload))

def signedToken : String :=
  let parts := signedParts primitives secret payload
  String.ofList ((parts.header ++ '.' :: parts.payload) ++ '.' :: parts.signature)

theorem joins_signedParts : (signedParts primitives secret payload).Joins (signedToken primitives secret payload) where
  text := String.toList_ofList
  payload := dot_not_mem_encode payload
  signature := dot_not_mem_encode _

theorem signature_signedParts : (signedParts primitives secret payload).signature =
    signatureText primitives secret (signedParts primitives secret payload).message :=
  rfl

theorem decode?_signedParts :
    Base64.decode? Base64.urlSafe (signedParts primitives secret payload).payload = some payload :=
  Base64.decode?_encode Base64.urlSafe Base64.urlSafe_isFaithful payload

end

/-- An app in a member that is passed over, and another under a key that is written with an escape. -/
def crookedClaims : Bytes :=
  Bytes.ofString "\x7b\"list\":[\x7b\"app_id\":2\x7d],\"app\\u005fid\":1,\"uid\":1,\"exp\":60\x7d"

def crookedToken : String := signedToken Primitives.standard "secret" crookedClaims

theorem shows_crookedToken : Shows crookedToken (some 1) :=
  ⟨_, crookedClaims, joins_signedParts _ _ _, decode?_signedParts _ _ _, eq_ok_of_toOption (by decide +kernel)⟩

theorem signedPayload_crookedToken : signedPayload Primitives.standard crookedToken "secret" ⟨0⟩ =
    .ok ⟨some 1, some 1, "", false, 60, none⟩ := by
  have claimed : signedClaims? (Json.parse crookedClaims) = .ok ⟨some 1, some 1, "", false, 60, none⟩ :=
    eq_ok_of_toOption (by decide +kernel)
  have registered : checkRegistered (Json.parse crookedClaims) = .ok () := eq_ok_of_toOption (by decide +kernel)
  exact (signedPayload_eq_ok_iff _ _ _ _ _).mpr ⟨_, crookedClaims, joins_signedParts _ _ _,
    signature_signedParts _ _ _, decode?_signedParts _ _ _, claimed, registered, by decide, by decide⟩

end Sample

/-- Both readings find the app of the key with the escape. -/
theorem both_readings_find_the_same_app_of_crooked :
    AccessToken.Shows Sample.crookedToken (some 1) ∧ ∃ claims : AccessToken.SignedClaims,
      AccessToken.signedPayload Primitives.standard Sample.crookedToken "secret" ⟨0⟩ = .ok claims ∧
        claims.appId = some 1 := by
  have told := Service.both_readings_find_the_same_app Sample.standardService Sample.crookedToken
    (fun _ => .done (.ok (some "secret"))) (fun _ => none) Sample.vacant
  exact ⟨Sample.shows_crookedToken, _, Sample.signedPayload_crookedToken,
    told.1 _ _ _ _ Sample.shows_crookedToken Sample.signedPayload_crookedToken⟩

end SingleSignOn

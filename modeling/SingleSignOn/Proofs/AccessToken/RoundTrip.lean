import SingleSignOn.Proofs.AccessToken.Acceptance
import SingleSignOn.Proofs.Json.Rendering
import SingleSignOn.Service.Sessions

namespace SingleSignOn

/-!
# A token gives back the claims that it was issued with

The payload is written once and read twice, before the signature is checked
and after it, each time with another shape.  Both readings are derived from
the members that a payload has (`payloadMembers`), whatever text the email
is and wherever in the range of 64 bits the integers lie.
-/

namespace AccessToken

open Json

/-- The members of a payload, as they are read off it. -/
def payloadMembers (claims : AccessClaims) : Members :=
  .next (escape (Bytes.ofString "uid")) (.number (.ofInt claims.userId)) <|
  .next (escape (Bytes.ofString "email")) (.string (escape (Bytes.ofString claims.email))) <|
  .next (escape (Bytes.ofString "app_id")) (.number (.ofInt claims.appId)) <|
  .next (escape (Bytes.ofString "is_admin")) (.boolean claims.isAdmin) <|
  .next (escape (Bytes.ofString "exp")) (.number (.ofInt claims.expiresAt)) <|
  .next (escape (Bytes.ofString "type")) (.string (escape (Bytes.ofString accessTokenType))) .closed

theorem parse_payloadBytes (claims : AccessClaims) :
    parse (payloadBytes claims) = ⟨.object (payloadMembers claims), true⟩ :=
  parse_render _

/-- Claims whose integers are signed 64-bit ones. -/
structure Representable (claims : AccessClaims) : Prop where
  user : Decimal.FitsInt64 claims.userId
  app : Decimal.FitsInt64 claims.appId
  expiry : Decimal.FitsInt64 claims.expiresAt

theorem check_payloadMembers {claims : AccessClaims} (representable : Representable claims) :
    verifiedShape.check (.object (payloadMembers claims)) = .ok () := by
  have user := asInt64_ofInt representable.user
  have app := asInt64_ofInt representable.app
  have expiry := asInt64_ofInt representable.expiry
  change verifiedShape.checkMembers [] (payloadMembers claims) = .ok ()
  rw [payloadMembers, checkMembers_read rfl rfl, checkMembers_read rfl rfl, checkMembers_read rfl rfl,
    checkMembers_read rfl rfl, checkMembers_read rfl rfl, checkMembers_read rfl rfl]
  · rfl
  · simp only [Field.nullable, Parsed.asOptional, asText_escape, Except.map]
  · simp only [Field.required, expiry, Except.map]
  · simp only [Field.defaulted, Parsed.asBoolean, Except.map]
  · simp only [Field.nullable, Parsed.asOptional, app, Except.map]
  · simp only [Field.defaulted, asText_escape, Except.map]
  · simp only [Field.nullable, Parsed.asOptional, user, Except.map]

theorem signedClaims?_payloadBytes {claims : AccessClaims} (representable : Representable claims) :
    signedClaims? (parse (payloadBytes claims)) = .ok ⟨some claims.userId, some claims.appId,
      claims.email, claims.isAdmin, claims.expiresAt, some accessTokenType⟩ := by
  have user := asInt64_ofInt representable.user
  have app := asInt64_ofInt representable.app
  have expiry := asInt64_ofInt representable.expiry
  have checked := check_payloadMembers representable
  rw [parse_payloadBytes]
  refine read_eq_ok_iff.mpr ⟨bind_eq_ok_iff.mpr ⟨(), checked, ?_⟩, rfl⟩
  simp only [Shape.readOptional, Shape.readOr, Shape.read, Shape.field?, payloadMembers, find?_written,
    String.reduceEq, if_true, if_false, Parsed.asOptional, Parsed.asBoolean, asText_escape, user, app,
    expiry, Except.map]
  rfl

/-- The expiry is a registered claim, which is passed over; the others are none. -/
theorem checkRegistered_payloadBytes (claims : AccessClaims) :
    checkRegistered (parse (payloadBytes claims)) = .ok () := by
  have passed : registeredShape.checkMembers [] (payloadMembers claims) = .ok () := by
    rw [payloadMembers, checkMembers_unread rfl rfl, checkMembers_unread rfl rfl,
      checkMembers_unread rfl rfl, checkMembers_unread rfl rfl, checkMembers_read rfl rfl,
      checkMembers_unread rfl rfl]
    · rfl
    · simp only [passNumber, passScalar, isGivenUp_ofInt, Bool.false_eq_true, if_false]
  have absent : registeredShape.field? (.object (payloadMembers claims)) "aud" = none := by
    simp only [Shape.field?, payloadMembers, find?_written, String.reduceEq, if_false]
    rfl
  rw [parse_payloadBytes]
  refine bind_eq_ok_iff.mpr ⟨(), read_eq_ok_iff.mpr ⟨passed, rfl⟩, ?_⟩
  rw [absent]
  rfl

theorem carries_payloadBytes {claims : AccessClaims} (representable : Representable claims)
    (positive : 0 ≤ claims.expiresAt) : Carries (payloadBytes claims) claims :=
  ⟨signedClaims?_payloadBytes representable, checkRegistered_payloadBytes claims, positive⟩

theorem algorithmOf?_headerBytes : algorithmOf? headerBytes = some signingAlgorithm := by
  decide +kernel

theorem legible_tokenOf (primitives : Primitives) (secret : String) (claims : AccessClaims) :
    ∃ parts, Legible (tokenOf primitives secret claims) parts headerBytes (payloadBytes claims) ∧
      parts.signature = signatureText primitives secret parts.message := by
  rcases ofToken?_tokenOf primitives secret claims with ⟨parts, split, header, payload, signature⟩
  have headerRead : Base64.decode? Base64.urlSafe parts.header = some headerBytes := by
    rw [header]
    exact Base64.decode?_encode Base64.urlSafe Base64.urlSafe_isFaithful headerBytes
  have payloadRead : Base64.decode? Base64.urlSafe parts.payload = some (payloadBytes claims) := by
    rw [payload]
    exact Base64.decode?_encode Base64.urlSafe Base64.urlSafe_isFaithful (payloadBytes claims)
  have joins := (ofToken?_eq_some_iff _ parts).mp split
  exact ⟨parts, ⟨joins, headerRead, algorithmOf?_headerBytes, payloadRead⟩, signature⟩

theorem claimedApp_tokenOf (primitives : Primitives) (secret : String) {claims : AccessClaims}
    (representable : Representable claims) :
    claimedApp (tokenOf primitives secret claims) = .ok claims.appId := by
  rcases legible_tokenOf primitives secret claims with ⟨parts, legible, _⟩
  have signed := signedClaims?_payloadBytes representable
  have registered := checkRegistered_payloadBytes claims
  have named := unverifiedAppId?_of_signedClaims? signed registered
  exact (claimedApp_eq_ok_iff _ _).mpr ⟨parts, headerBytes, payloadBytes claims, legible, named⟩

/-- A token is good under its secret up to the second of its expiry. -/
theorem verifyFor_tokenOf (primitives : Primitives) (secret : String) (now : Instant)
    {claims : AccessClaims} (representable : Representable claims) (positive : 0 ≤ claims.expiresAt) :
    verifyFor primitives (tokenOf primitives secret claims) claims.appId secret now =
      if now.unixSeconds ≤ claims.expiresAt then .ok claims else .error .expired := by
  rcases legible_tokenOf primitives secret claims with ⟨parts, legible, signature⟩
  have carries := carries_payloadBytes representable positive
  by_cases fresh : now.unixSeconds ≤ claims.expiresAt
  · rw [if_pos fresh]
    exact (verifyFor_eq_ok_iff _ _ _ _ _ _).mpr
      ⟨parts, payloadBytes claims, legible.joins, signature, legible.payloadRead, carries, rfl, fresh⟩
  · have joins := (ofToken?_eq_some_iff _ parts).mpr legible.joins
    have signatureRead := (Base64.decode?_eq_some_iff _ Base64.urlSafe_isFaithful _ _).mpr signature
    have passed : (parse (payloadBytes claims)).read registeredShape.check = .ok () := by
      rcases bind_eq_ok_iff.mp carries.registered with ⟨_, passed, _⟩
      exact passed
    have late : signedPayload primitives (tokenOf primitives secret claims) secret now = .error .expired := by
      simp only [signedPayload, joins, signatureRead, legible.payloadRead, carries.signed, passed,
        ne_eq, not_true_eq_false, if_false, Int.not_lt.mpr positive, Int.not_le.mp fresh, if_true]
      rfl
    rw [if_neg fresh, verifyFor, late]
    rfl

/-! ## Issued tokens -/

theorem expiry?_eq_some_iff (lifetime : Nat) (now : Instant) (expiresAt : Int) :
    expiry? lifetime now = some expiresAt ↔
      ((lifetime : Int) ≤ Decimal.int64Max ∧ Decimal.FitsInt64 (now.unixSeconds + lifetime)) ∧
        now.unixSeconds + lifetime = expiresAt := by
  unfold expiry?
  rw [Option.ite_none_right_eq_some, Option.some.injEq]

theorem issue_eq_ok_iff (primitives : Primitives) (subject : Subject) (secret : String) (lifetime : Nat)
    (now : Instant) (token : String) (claims : AccessClaims) :
    issue primitives subject secret lifetime now = .ok (token, claims) ↔
      ∃ expiresAt, expiry? lifetime now = some expiresAt ∧
        claims = ⟨subject.userId, subject.email, subject.appId, subject.isAdmin, expiresAt⟩ ∧
        token = tokenOf primitives secret claims := by
  unfold issue
  cases expiry? lifetime now with
  | none =>
    refine ⟨fun impossible => ?_, fun ⟨_, impossible, _⟩ => ?_⟩
    · cases impossible
    · cases impossible
  | some expiresAt =>
    constructor
    · intro issued
      cases issued
      exact ⟨expiresAt, rfl, rfl, rfl⟩
    · rintro ⟨_, ⟨⟩, rfl, rfl⟩
      rfl

end AccessToken

namespace Service

open AccessToken

/-- What is done with a token once the look-up for its app has answered. -/
def judgeUnder (service : Service) (token : String) (appId : AppId) :
    Except Error (Option String) -> Program (Except Rejection AccessClaims)
  | .error cause => .done (.error (.lookup cause))
  | .ok none => .done (.error .unknownApp)
  | .ok (some secret) => .clock fun now =>
    .done (verifyFor service.primitives token appId secret now)

theorem verifyToken_of_claimed (service : Service) {token : String} {appId : AppId}
    (claimed : claimedApp token = .ok appId)
    (lookup : AppId -> Program (Except Error (Option String))) :
    service.verifyToken token lookup = (lookup appId).bind (service.judgeUnder token appId) := by
  unfold verifyToken
  rw [claimed]
  refine congrArg (lookup appId).bind (funext fun answer => ?_)
  rcases answer with cause | _ | secret
  · rfl
  · rfl
  · rfl

/-- Verification of an issued token looks up the secret of one app, that of the
subject, and nothing else.  Given the secret of the issue it returns the
issued claims, and from the second after their expiry on it refuses them as
expired. -/
theorem verifyToken_issue (service : Service) (subject : Subject) (secret : String) (lifetime : Nat)
    (issued : Instant) (token : String) (claims : AccessClaims)
    (user : Decimal.FitsInt64 subject.userId) (app : Decimal.FitsInt64 subject.appId)
    (signed : issue service.primitives subject secret lifetime issued = .ok (token, claims))
    (positive : 0 ≤ claims.expiresAt) :
    claims = ⟨subject.userId, subject.email, subject.appId, subject.isAdmin,
      issued.unixSeconds + lifetime⟩ ∧
    ∃ rest : Except Error (Option String) -> Program (Except Rejection AccessClaims),
      (forall lookup, service.verifyToken token lookup = (lookup claims.appId).bind rest) ∧
      rest (.ok (some secret)) = .clock fun now =>
        .done (if now.unixSeconds ≤ claims.expiresAt then .ok claims else .error .expired) := by
  rcases (issue_eq_ok_iff _ _ _ _ _ _ _).mp signed with ⟨expiresAt, expiry, same, rfl⟩
  rcases (expiry?_eq_some_iff _ _ _).mp expiry with ⟨⟨_, fits⟩, rfl⟩
  have representable : Representable claims := by
    subst same
    exact ⟨user, app, fits⟩
  have claimed := claimedApp_tokenOf service.primitives secret representable
  refine ⟨same, service.judgeUnder _ claims.appId, service.verifyToken_of_claimed claimed, ?_⟩
  refine congrArg Program.clock (funext fun now => congrArg Program.done ?_)
  exact verifyFor_tokenOf service.primitives secret now representable positive

/-- The user and the app have the greatest and the least number there is, the
email has characters that are escaped, and the token expires at once. -/
theorem verifyToken_issue_at_limits :
    ∃ token claims,
      Decimal.FitsInt64 Decimal.int64Max ∧ Decimal.FitsInt64 Decimal.int64Min ∧
      issue Primitives.standard ⟨Decimal.int64Max, "\"\\\n é", Decimal.int64Min, true⟩ "" 0 ⟨0⟩ =
        .ok (token, claims) ∧ 0 ≤ claims.expiresAt ∧
      claims = ⟨Decimal.int64Max, "\"\\\n é", Decimal.int64Min, true, 0⟩ ∧
      ∃ rest : Except Error (Option String) -> Program (Except Rejection AccessClaims),
        (forall lookup, Service.verifyToken ⟨Primitives.standard, ⟨60, 1, 1000⟩, ⟨8, 1, 1⟩⟩ token lookup =
          (lookup claims.appId).bind rest) ∧
        rest (.ok (some "")) = .clock fun now =>
          .done (if now.unixSeconds ≤ claims.expiresAt then .ok claims else .error .expired) := by
  let subject : Subject := ⟨Decimal.int64Max, "\"\\\n é", Decimal.int64Min, true⟩
  let claims : AccessClaims := ⟨Decimal.int64Max, "\"\\\n é", Decimal.int64Min, true, 0⟩
  have user : Decimal.FitsInt64 Decimal.int64Max := by decide
  have app : Decimal.FitsInt64 Decimal.int64Min := by decide
  have signed : issue Primitives.standard subject "" 0 ⟨0⟩ =
      .ok (tokenOf Primitives.standard "" claims, claims) := rfl
  have positive : 0 ≤ claims.expiresAt := by decide
  exact ⟨_, claims, user, app, signed, positive,
    verifyToken_issue ⟨Primitives.standard, ⟨60, 1, 1000⟩, ⟨8, 1, 1⟩⟩ subject "" 0 ⟨0⟩ _ claims user app
      signed positive⟩

end Service

end SingleSignOn

import SingleSignOn.Proofs.AccessToken.Parts
import SingleSignOn.Proofs.Json.Shapes
import SingleSignOn.Store.Credentials

namespace SingleSignOn.AccessToken

/-!
# Which access tokens are good

A token is read in two stages with a look-up between them, and checked for
its expiry twice.  `Accepts` says in one place what all of this comes to:
the parts, the header, the payload, the app and the signature that a good
token has.  The first stage reads the payload with another shape than the
second, so it has to be shown that it never refuses or misreads a payload
that the second one takes.
-/

open Json

/-- A token is its parts with dots between them, and its last two dots are those. -/
structure Parts.Joins (parts : Parts) (token : String) : Prop where
  text : token.toList = (parts.header ++ '.' :: parts.payload) ++ '.' :: parts.signature
  payload : '.' ∉ parts.payload
  signature : '.' ∉ parts.signature

/-- A token has parts that can be read, and names the algorithm in which tokens are signed. -/
structure Legible (token : String) (parts : Parts) (header payload : Bytes) : Prop where
  joins : parts.Joins token
  headerRead : Base64.decode? Base64.urlSafe parts.header = some header
  algorithm : algorithmOf? header = some signingAlgorithm
  payloadRead : Base64.decode? Base64.urlSafe parts.payload = some payload

/-- A payload holds the claims of an access token, and no registered claim that spoils it. -/
structure Carries (payload : Bytes) (claims : AccessClaims) : Prop where
  signed : signedClaims? (parse payload) = .ok ⟨some claims.userId, some claims.appId, claims.email,
    claims.isAdmin, claims.expiresAt, some accessTokenType⟩
  registered : checkRegistered (parse payload) = .ok ()
  expiry : 0 ≤ claims.expiresAt

/-- A token is good and carries these claims. -/
def Accepts (primitives : Primitives) (credentials : CredentialStore) (now : Instant)
    (token : String) (claims : AccessClaims) : Prop :=
  ∃ parts header payload app, Legible token parts header payload ∧ Carries payload claims ∧
    credentials.apps[claims.appId]? = some app ∧ app.enabled = true ∧
    parts.signature = signatureText primitives app.secret parts.message ∧
    now.unixSeconds < claims.expiresAt

/-- A token names an app to be looked up. -/
def Names (token : String) (appId : AppId) : Prop :=
  ∃ parts header payload, Legible token parts header payload ∧
    unverifiedAppId? payload = .ok (some appId)

/-! ## Parts -/

theorem not_mem_of_splitAtLast {mark : Char} {text : List Char}
    (unsplit : splitAtLast mark text = none) :
    mark ∉ text := by
  induction text with
  | nil => exact List.not_mem_nil
  | cons head tail hypothesis =>
    unfold splitAtLast at unsplit
    split at unsplit
    · cases unsplit
    · next rest =>
      split at unsplit
      · cases unsplit
      · next different => exact List.not_mem_cons_of_ne_of_not_mem (Ne.symm different) (hypothesis rest)

theorem splitAtLast_eq_some_iff (mark : Char) (text before after : List Char) :
    splitAtLast mark text = some (before, after) ↔ text = before ++ mark :: after ∧
    mark ∉ after := by
  refine ⟨fun found => ?_, fun ⟨same, free⟩ => same ▸ splitAtLast_append mark before after free⟩
  induction text generalizing before with
  | nil => cases found
  | cons head tail hypothesis =>
    unfold splitAtLast at found
    split at found
    · next rest =>
      cases found
      rcases hypothesis _ rest with ⟨same, free⟩
      exact ⟨congrArg (head :: ·) same, free⟩
    · next rest =>
      split at found
      · next same =>
        cases found
        exact ⟨congrArg (· :: after) same, not_mem_of_splitAtLast rest⟩
      · cases found

theorem ofToken?_eq_some_iff (token : String) (parts : Parts) :
    Parts.ofToken? token = some parts ↔ parts.Joins token := by
  simp only [Parts.ofToken?, Option.bind_eq_bind, Option.bind_eq_some_iff, Option.pure_def,
    Option.some.injEq, Prod.exists, splitAtLast_eq_some_iff]
  constructor
  · rintro ⟨message, signature, ⟨text, last⟩, header, payload, ⟨rfl, second⟩, rfl⟩
    exact ⟨text, second, last⟩
  · rintro ⟨text, second, last⟩
    exact ⟨_, _, ⟨text, last⟩, _, _, ⟨rfl, second⟩, rfl⟩

/-! ## Payloads -/

theorem read_eq_ok_iff {α : Type} {document : Document} {read : Parsed -> Except Json.Fault α}
    {record : α} :
    document.read read = .ok record ↔ read document.root = .ok record ∧ document.ends = true := by
  unfold Document.read
  rw [bind_eq_ok_iff]
  constructor
  · rintro ⟨found, same, rest⟩
    split at rest
    · next ends =>
      cases rest
      exact ⟨same, ends⟩
    · cases rest
  · rintro ⟨same, ends⟩
    exact ⟨record, same, if_pos ends⟩

theorem narrows_unverifiedShape : unverifiedShape.Narrows verifiedShape := by
  refine ⟨fun name field found => ?_, ?_, rfl, ?_, takesIntact_skipped⟩
  · have named := List.find?_some found
    cases List.mem_singleton.mp (List.mem_of_find?_eq_some found)
    cases beq_iff_eq.mp named
    rfl
  · intro field member
    cases List.mem_singleton.mp member
    rfl
  · intro field member
    simp only [verifiedShape, List.mem_cons, List.not_mem_nil, or_false] at member
    rcases member with rfl | rfl | rfl | rfl | rfl | rfl
    · exact takesIntact_nullable takesIntact_asInt64 _
    · exact takesIntact_nullable takesIntact_asInt64 _
    · exact takesIntact_defaulted takesIntact_asText _
    · exact takesIntact_defaulted takesIntact_asBoolean _
    · exact takesIntact_required takesIntact_asInt64 _
    · exact takesIntact_nullable takesIntact_asText _

/-- A payload with claims and no spoiling registered claim is an object: as
an array it would need six items for the claims and at most five for the others. -/
theorem root_eq_object {root : Parsed} (verified : verifiedShape.check root = .ok ())
    (registered : registeredShape.check root = .ok ()) : ∃ members, root = .object members := by
  cases root with
  | object members => exact ⟨members, rfl⟩
  | array items =>
    have atMost : items.count ≤ 5 := (count_of_checkItems registered).1
    have last := (count_of_checkItems verified).2 (.nullable "type" Parsed.asText) <| by
      refine (List.drop_sublist_drop_left verifiedShape.fields atMost).subset ?_
      exact List.mem_singleton_self _
    cases last
  | _ => cases verified

/-- The first stage reads the app of every payload that the second one takes. -/
theorem unverifiedAppId?_of_signedClaims? {payload : Bytes} {claims : SignedClaims}
    (read : signedClaims? (parse payload) = .ok claims)
    (registered : checkRegistered (parse payload) = .ok ()) :
    unverifiedAppId? payload = .ok claims.appId := by
  rcases read_eq_ok_iff.mp read with ⟨record, ends⟩
  rcases bind_eq_ok_iff.mp record with ⟨_, verified, fields⟩
  have appRead : verifiedShape.readOptional (parse payload).root "app_id" Parsed.asInt64 =
      .ok claims.appId := by
    rcases bind_eq_ok_iff.mp fields with ⟨userId, _, fields⟩
    rcases bind_eq_ok_iff.mp fields with ⟨appId, appRead, fields⟩
    rcases bind_eq_ok_iff.mp fields with ⟨email, _, fields⟩
    rcases bind_eq_ok_iff.mp fields with ⟨isAdmin, _, fields⟩
    rcases bind_eq_ok_iff.mp fields with ⟨expiresAt, _, fields⟩
    rcases bind_eq_ok_iff.mp fields with ⟨tokenType, _, fields⟩
    cases fields
    exact appRead
  have passed : registeredShape.check (parse payload).root = .ok () := by
    rcases bind_eq_ok_iff.mp registered with ⟨_, passed, _⟩
    exact (read_eq_ok_iff.mp passed).1
  rcases root_eq_object verified passed with ⟨members, same⟩
  refine bind_eq_ok_iff.mpr ⟨claims.appId, read_eq_ok_iff.mpr ⟨?_, ends⟩, ?_⟩
  · refine bind_eq_ok_iff.mpr ⟨(), ?_, ?_⟩
    · rw [same] at verified ⊢
      exact narrows_unverifiedShape.checkMembers_ok (fun _ => id) verified
    · rw [same] at appRead ⊢
      exact appRead
  · exact bind_eq_ok_iff.mpr ⟨(), registered, rfl⟩

/-! ## Stages -/

theorem claimedApp_eq_ok_iff (token : String) (appId : AppId) :
    claimedApp token = .ok appId ↔ Names token appId := by
  constructor
  · intro claimed
    unfold claimedApp at claimed
    dsimp only at claimed
    split at claimed
    case h_2 => cases claimed
    rename_i parts joins
    split at claimed
    case h_2 => cases claimed
    rename_i header headerRead
    split at claimed
    case h_2 => cases claimed
    rename_i algorithm named
    split at claimed
    case isTrue => cases claimed
    rename_i same
    split at claimed
    case h_2 => cases claimed
    rename_i payload payloadRead
    split at claimed
    case h_1 => cases claimed
    case h_2 => cases claimed
    rename_i found unverified
    cases claimed
    exact ⟨parts, header, payload, ⟨(ofToken?_eq_some_iff token parts).mp joins, headerRead,
      named.trans (congrArg some (Decidable.not_not.mp same)), payloadRead⟩, unverified⟩
  · rintro ⟨parts, header, payload, ⟨joins, headerRead, algorithm, payloadRead⟩, unverified⟩
    simp only [claimedApp, (ofToken?_eq_some_iff token parts).mpr joins, headerRead, algorithm,
      payloadRead, unverified, ne_eq, not_true_eq_false, if_false]
    rfl

/-- A signed payload is one whose signature is the one that the secret gives,
and that is not yet past its expiry. -/
theorem signedPayload_eq_ok_iff (primitives : Primitives) (token secret : String) (now : Instant)
    (claims : SignedClaims) :
    signedPayload primitives token secret now = .ok claims ↔
      ∃ (parts : Parts) (payload : Bytes), parts.Joins token ∧
        parts.signature = signatureText primitives secret parts.message ∧
        Base64.decode? Base64.urlSafe parts.payload = some payload ∧
        signedClaims? (parse payload) = .ok claims ∧ checkRegistered (parse payload) = .ok () ∧
        0 ≤ claims.expiresAt ∧ now.unixSeconds ≤ claims.expiresAt := by
  constructor
  · intro accepted
    unfold signedPayload at accepted
    dsimp only at accepted
    split at accepted
    case h_2 => cases accepted
    rename_i parts joins
    split at accepted
    case h_2 => cases accepted
    rename_i signature signatureRead
    split at accepted
    case isTrue => cases accepted
    rename_i same
    rw [Decidable.not_not.mp same] at signatureRead
    split at accepted
    case h_2 => cases accepted
    rename_i payload payloadRead
    split at accepted
    case h_2 => cases accepted
    rename_i found signed
    split at accepted
    case h_2 => cases accepted
    split at accepted
    case isTrue => cases accepted
    rename_i positive
    split at accepted
    case isTrue => cases accepted
    rename_i fresh
    split at accepted
    case h_2 => cases accepted
    rename_i registered
    cases accepted
    exact ⟨parts, payload, (ofToken?_eq_some_iff token parts).mp joins,
      (Base64.decode?_eq_some_iff _ Base64.urlSafe_isFaithful _ _).mp signatureRead, payloadRead, signed,
      registered,       Int.not_lt.mp positive, Int.not_lt.mp fresh⟩
  · rintro ⟨parts, payload, joins, signature, payloadRead, signed, registered, positive, fresh⟩
    have signatureRead := (Base64.decode?_eq_some_iff _ Base64.urlSafe_isFaithful _ _).mpr signature
    have passed : (parse payload).read registeredShape.check = .ok () := by
      rcases bind_eq_ok_iff.mp registered with ⟨_, passed, _⟩
      exact passed
    simp only [signedPayload, (ofToken?_eq_some_iff token parts).mpr joins, signatureRead,
      payloadRead, signed, passed, registered, ne_eq, not_true_eq_false, if_false,
      Int.not_lt.mpr positive, Int.not_lt.mpr fresh]
    rfl

theorem verifyFor_eq_ok_iff (primitives : Primitives) (token : String) (appId : AppId)
    (secret : String) (now : Instant) (claims : AccessClaims) :
    verifyFor primitives token appId secret now = .ok claims ↔
      ∃ (parts : Parts) (payload : Bytes), parts.Joins token ∧
        parts.signature = signatureText primitives secret parts.message ∧
        Base64.decode? Base64.urlSafe parts.payload = some payload ∧ Carries payload claims ∧
        claims.appId = appId ∧ now.unixSeconds ≤ claims.expiresAt := by
  unfold verifyFor
  rw [bind_eq_ok_iff]
  constructor
  · rintro ⟨signed, accepted, checked⟩
    rcases (signedPayload_eq_ok_iff _ _ _ _ _).mp accepted with
      ⟨parts, payload, joins, signature, payloadRead, read, registered, positive, fresh⟩
    rcases signed with ⟨_ | userId, _ | verifiedAppId, email, isAdmin, expiresAt, tokenType⟩
    · cases checked
    · cases checked
    · cases checked
    dsimp only at checked
    split at checked
    case isTrue => cases checked
    rename_i sameApp
    split at checked
    case isTrue => cases checked
    rename_i sameType
    cases Decidable.not_not.mp sameApp
    cases Decidable.not_not.mp sameType
    cases checked
    exact ⟨parts, payload, joins, signature, payloadRead, ⟨read, registered, positive⟩, rfl, fresh⟩
  · rintro ⟨parts, payload, joins, signature, payloadRead, ⟨read, registered, positive⟩, rfl, fresh⟩
    refine ⟨_, (signedPayload_eq_ok_iff _ _ _ _ _).mpr
      ⟨parts, payload, joins, signature, payloadRead, read, registered, positive, fresh⟩, ?_⟩
    simp only [ne_eq, not_true_eq_false, if_false]
    rfl

/-- The first stage lets through whatever is good. -/
theorem Accepts.names {primitives : Primitives} {credentials : CredentialStore} {now : Instant}
    {token : String} {claims : AccessClaims}
    (accepts : Accepts primitives credentials now token claims) :
    Names token claims.appId := by
  rcases accepts with ⟨parts, header, payload, app, legible, carries, _⟩
  exact ⟨parts, header, payload, legible,
    unverifiedAppId?_of_signedClaims? carries.signed carries.registered⟩

/-- Both stages, the look-up and the second test of the expiry together. -/
theorem accepts_iff (primitives : Primitives) (credentials : CredentialStore) (now : Instant)
    (token : String) (claims : AccessClaims) :
    Accepts primitives credentials now token claims ↔
      ∃ appId app, Names token appId ∧ credentials.apps[appId]? = some app ∧ app.enabled = true ∧
        verifyFor primitives token appId app.secret now = .ok claims ∧
        now.unixSeconds < claims.expiresAt := by
  constructor
  · intro accepts
    have names := accepts.names
    rcases accepts with ⟨parts, header, payload, app, legible, carries, stored, enabled, signature,
      fresh⟩
    refine ⟨claims.appId, app, names, stored, enabled, ?_, fresh⟩
    exact (verifyFor_eq_ok_iff _ _ _ _ _ _).mpr
      ⟨parts, payload, legible.joins, signature, legible.payloadRead, carries, rfl,
       Int.le_of_lt fresh⟩
  · rintro ⟨appId, app, ⟨parts, header, payload, legible, _⟩, stored, enabled, verified, fresh⟩
    rcases (verifyFor_eq_ok_iff _ _ _ _ _ _).mp verified with
      ⟨others, content, joins, signature, contentRead, carries, rfl, _⟩
    cases ((ofToken?_eq_some_iff token parts).mpr legible.joins).symm.trans
      ((ofToken?_eq_some_iff token others).mpr joins)
    cases legible.payloadRead.symm.trans contentRead
    exact ⟨parts, header, payload, app, legible, carries, stored, enabled, signature, fresh⟩

theorem claimedApp_ne_lookup (token : String) (cause : Error) :
    claimedApp token ≠ .error (.lookup cause) := by
  intro claimed
  unfold claimedApp at claimed
  dsimp only at claimed
  repeat' split at claimed
  all_goals cases claimed

theorem verifyFor_ne_lookup (primitives : Primitives) (token : String) (appId : AppId)
    (secret : String) (now : Instant) (cause : Error) :
    verifyFor primitives token appId secret now ≠ .error (.lookup cause) := by
  intro verified
  cases payload : signedPayload primitives token secret now with
  | error rejection =>
    simp only [verifyFor, payload] at verified
    cases verified
    unfold signedPayload at payload
    dsimp only at payload
    repeat' split at payload
    all_goals cases payload
  | ok claims =>
    simp only [verifyFor, payload] at verified
    rcases claims with ⟨_ | userId, _ | claimed, email, isAdmin, expiresAt, tokenType⟩
    · cases verified
    · cases verified
    · cases verified
    · change (if _ then _ else _) = _ at verified
      repeat' split at verified
      all_goals cases verified

end SingleSignOn.AccessToken

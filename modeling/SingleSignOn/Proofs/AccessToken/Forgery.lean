import SingleSignOn.Proofs.AccessToken.Acceptance
import SingleSignOn.Proofs.AccessToken.RoundTrip
import SingleSignOn.Proofs.Program.Discipline
import SingleSignOn.Proofs.Program.Running

namespace SingleSignOn

/-!
# Nothing but the app is trusted before the signature

The app that a token names is read first, since it tells under which secret
the token has to be signed.  Everything else that a token says is looked at
only after its signature.  So whoever has no secret learns nothing from the
answer: one token is refused like any other that names the same app, and what
is wrong with the claims of a token is told only of signed ones.
-/

theorem Digest.length_hmacSha256 (key message : Bytes) : (hmacSha256 key message).length = 32 :=
  rfl

namespace AccessToken

/-- A token is signed under a secret. -/
def IsSigned (primitives : Primitives) (secret token : String) : Prop :=
  ∃ parts : Parts, parts.Joins token ∧ parts.signature = signatureText primitives secret parts.message

/-- A token has a signature that can be read, and it is not the one that the secret gives. -/
def IsForged (primitives : Primitives) (secret token : String) : Prop :=
  ∃ (parts : Parts) (signature : Bytes), parts.Joins token ∧
    Base64.decode? Base64.urlSafe parts.signature = some signature ∧
    signature ≠ primitives.mac (Bytes.ofString secret) (Bytes.ofString parts.message)

/-- What is found wrong with the claims of a token, its app apart. -/
def claimFaults : List Rejection :=
  [.expired, .wrongType, .missingClaim "uid", .missingClaim "exp"]

/-- How a token is refused that is not signed under what the look-up has answered. -/
def refusal : Except Error (Option String) -> Rejection
  | .error cause => .lookup cause
  | .ok none => .unknownApp
  | .ok (some _) => .invalidSignature

/-- What is found about a token that names an app, once the look-up has answered. -/
def verdict (primitives : Primitives) (token : String) (appId : AppId) (now : Instant) :
    Except Error (Option String) -> Except Rejection AccessClaims
  | .error cause => .error (.lookup cause)
  | .ok none => .error .unknownApp
  | .ok (some secret) => verifyFor primitives token appId secret now

section

variable {primitives : Primitives} {secret token : String} {now : Instant}

/-- A signature that is not the right one is refused before the claims are read. -/
theorem signedPayload_of_isForged (forged : IsForged primitives secret token) :
    signedPayload primitives token secret now = .error .invalidSignature := by
  rcases forged with ⟨parts, signature, joins, read, different⟩
  simp only [signedPayload, (ofToken?_eq_some_iff token parts).mpr joins, read, ne_eq, different,
    not_false_eq_true, if_true]
  rfl

/-- A token cannot be taken apart, or it is forged, or it is signed and cannot be refused for its signature. -/
theorem signedPayload_cases (primitives : Primitives) (token secret : String) (now : Instant) :
    signedPayload primitives token secret now = .error .malformed ∨ IsForged primitives secret token ∨
      (IsSigned primitives secret token ∧
        signedPayload primitives token secret now ≠ .error .invalidSignature) := by
  cases joins : Parts.ofToken? token with
  | none =>
    refine .inl ?_
    simp only [signedPayload, joins]
    rfl
  | some parts =>
    have joined := (ofToken?_eq_some_iff token parts).mp joins
    cases read : Base64.decode? Base64.urlSafe parts.signature with
    | none =>
      refine .inl ?_
      simp only [signedPayload, joins, read]
      rfl
    | some signature =>
      by_cases same : signature = primitives.mac (Bytes.ofString secret) (Bytes.ofString parts.message)
      · subst same
        have written := (Base64.decode?_eq_some_iff _ Base64.urlSafe_isFaithful _ _).mp read
        refine .inr (.inr ⟨⟨parts, joined, written⟩, fun refused => ?_⟩)
        simp only [signedPayload, joins, read, ne_eq, not_true_eq_false, if_false] at refused
        repeat' split at refused
        all_goals cases refused
      · exact .inr (.inl ⟨parts, signature, joined, read, same⟩)

theorem signedPayload_eq_invalidSignature_iff :
    signedPayload primitives token secret now = .error .invalidSignature ↔ IsForged primitives secret token := by
  refine ⟨fun refused => ?_, signedPayload_of_isForged⟩
  rcases signedPayload_cases primitives token secret now with malformed | forged | ⟨_, other⟩
  · cases malformed.symm.trans refused
  · exact forged
  · exact absurd refused other

/-- A token whose signature is not the right one is refused for it, whatever it claims. -/
theorem verifyFor_of_isForged (forged : IsForged primitives secret token) (appId : AppId) :
    verifyFor primitives token appId secret now = .error .invalidSignature := by
  rw [verifyFor, signedPayload_of_isForged forged]
  rfl

/-- What is wrong with the claims of a token is told only if it is signed. -/
theorem isSigned_of_claimFault {appId : AppId} {rejection : Rejection}
    (refused : verifyFor primitives token appId secret now = .error rejection)
    (fault : rejection ∈ claimFaults) : IsSigned primitives secret token := by
  have other (early : Rejection) (same : signedPayload primitives token secret now = .error early) :
      early = rejection := by
    rw [verifyFor, same] at refused
    exact Except.error.inj refused
  rcases signedPayload_cases primitives token secret now with malformed | forged | ⟨signed, _⟩
  · rw [← other .malformed malformed] at fault
    exact absurd fault (by decide)
  · rw [← other .invalidSignature (signedPayload_of_isForged forged)] at fault
    exact absurd fault (by decide)
  · exact signed

/-- Before the look-up a token is refused for its form, for its algorithm, or for naming no app. -/
theorem mem_of_claimedApp_eq_error {rejection : Rejection} (refused : claimedApp token = .error rejection) :
    rejection ∈ [.malformed, .unsupportedAlgorithm, .missingClaim "app_id"] := by
  unfold claimedApp at refused
  dsimp only at refused
  repeat' split at refused
  all_goals cases refused
  all_goals decide

end

end AccessToken

namespace Service

open AccessToken

section

variable {service : Service} {lookup : AppId -> Program (Except Error (Option String))} {mishaps : Mishaps}
  {passage later : Passage} {token : String}

/-- The outcome for a token that names an app is told by what the look-up has answered. -/
theorem runUnder_verifyToken {appId : AppId} {answer : Except Error (Option String)} (names : Names token appId)
    (answered : (lookup appId).runUnder mishaps passage = (answer, later)) :
    (service.verifyToken token lookup).runUnder mishaps passage =
      (verdict service.primitives token appId later.world.now answer, later) := by
  rw [service.verifyToken_of_claimed ((claimedApp_eq_ok_iff token appId).mpr names), Program.runUnder_bind, answered]
  rcases answer with cause | _ | secret <;> rfl

/-- A token is refused before any look-up, or it names an app, and the look-up of that app tells the rest. -/
theorem runUnder_verifyToken_cases (service : Service) (token : String)
    (lookup : AppId -> Program (Except Error (Option String))) (mishaps : Mishaps) (passage : Passage) :
    (∃ early, claimedApp token = .error early ∧
      (service.verifyToken token lookup).runUnder mishaps passage = (.error early, passage)) ∨
    ∃ appId answer later, claimedApp token = .ok appId ∧ (lookup appId).runUnder mishaps passage = (answer, later) ∧
      (service.verifyToken token lookup).runUnder mishaps passage =
        (verdict service.primitives token appId later.world.now answer, later) := by
  cases claimed : claimedApp token with
  | error early =>
    refine .inl ⟨early, rfl, ?_⟩
    unfold verifyToken
    rw [claimed]
    rfl
  | ok appId =>
    have names := (claimedApp_eq_ok_iff token appId).mp claimed
    exact .inr ⟨appId, _, _, rfl, rfl, runUnder_verifyToken names rfl⟩

/-- Nothing that a token claims matters as long as it is not signed under the secret that is found. -/
theorem runUnder_verifyToken_of_isForged {appId : AppId} {answer : Except Error (Option String)}
    (names : Names token appId) (answered : (lookup appId).runUnder mishaps passage = (answer, later))
    (forged : forall secret, answer = .ok (some secret) -> IsForged service.primitives secret token) :
    (service.verifyToken token lookup).runUnder mishaps passage = (.error (refusal answer), later) := by
  rw [runUnder_verifyToken names answered]
  rcases answer with cause | _ | secret
  · rfl
  · rfl
  · exact congrArg (·, later) (verifyFor_of_isForged (forged secret rfl) appId)

/-- A token whose claims are found wanting names an app whose secret was found, and is signed under it. -/
theorem isSigned_of_runUnder_verifyToken {rejection : Rejection}
    (refused : (service.verifyToken token lookup).runUnder mishaps passage = (.error rejection, later))
    (fault : rejection ∈ claimFaults) :
    ∃ appId secret, Names token appId ∧ (lookup appId).runUnder mishaps passage = (.ok (some secret), later) ∧
      IsSigned service.primitives secret token := by
  rcases service.runUnder_verifyToken_cases token lookup mishaps passage with
    ⟨early, claimed, told⟩ | ⟨appId, answer, reached, claimed, answered, told⟩
  · cases told.symm.trans refused
    have disjoint : ∀ early ∈ [Rejection.malformed, .unsupportedAlgorithm, .missingClaim "app_id"],
        early ∉ claimFaults := by decide
    exact absurd fault (disjoint rejection (mem_of_claimedApp_eq_error claimed))
  · have names := (claimedApp_eq_ok_iff token appId).mp claimed
    rcases Prod.mk.inj (told.symm.trans refused) with ⟨found, rfl⟩
    rcases answer with cause | _ | secret
    · cases found
      simp only [claimFaults, List.mem_cons, List.not_mem_nil, reduceCtorEq, or_self] at fault
    · cases found
      exact absurd fault (by decide)
    · exact ⟨appId, secret, names, answered, isSigned_of_claimFault found fault⟩

end

/-- Of a token in the right algorithm only the app is read before its signature is checked.  The app is looked up
once, and nothing else is asked of the stores.  Two tokens that name the same app and are not signed under
the secret that is found are refused in the same way.  What is wrong with the other claims of a token is told only
if it is signed under that secret. -/
theorem only_the_app_is_trusted (service : Service) (lookup : AppId -> Program (Except Error (Option String)))
    (mishaps : Mishaps) (passage : Passage) :
    (forall token appId, Names token appId ->
      service.verifyToken token lookup = (lookup appId).bind (service.judgeUnder token appId) ∧
        forall answer, (service.judgeUnder token appId answer).CallsOnly fun _ => False) ∧
    (forall first second appId answer later, Names first appId -> Names second appId ->
      (lookup appId).runUnder mishaps passage = (answer, later) ->
      (forall secret, answer = .ok (some secret) ->
        IsForged service.primitives secret first ∧ IsForged service.primitives secret second) ->
      (service.verifyToken first lookup).runUnder mishaps passage = (.error (refusal answer), later) ∧
        (service.verifyToken second lookup).runUnder mishaps passage = (.error (refusal answer), later)) ∧
    (forall token rejection later,
      (service.verifyToken token lookup).runUnder mishaps passage = (.error rejection, later) ->
      rejection ∈ claimFaults ->
      ∃ appId secret, Names token appId ∧ (lookup appId).runUnder mishaps passage = (.ok (some secret), later) ∧
        IsSigned service.primitives secret token) := by
  refine ⟨fun token appId names => ⟨?_, fun answer => ?_⟩, ?_, ?_⟩
  · exact service.verifyToken_of_claimed ((claimedApp_eq_ok_iff token appId).mpr names) lookup
  · rcases answer with cause | _ | secret
    · trivial
    · trivial
    · exact fun now => trivial
  · intro first second appId answer later named alike answered forged
    exact ⟨runUnder_verifyToken_of_isForged named answered fun secret found => (forged secret found).1,
      runUnder_verifyToken_of_isForged alike answered fun secret found => (forged secret found).2⟩
  · intro token rejection later refused fault
    exact isSigned_of_runUnder_verifyToken refused fault

end Service

namespace Sample

/-- A service over the functions that a running one uses. -/
def standardService : Service :=
  ⟨Primitives.standard, ⟨60, 1, 1000⟩, ⟨8, 1, 1⟩⟩

/-- The parts of a token in the right algorithm with three zero bytes for a signature. -/
def forgedParts (payload : String) : AccessToken.Parts :=
  ⟨"eyJ0eXAiOiJKV1QiLCJhbGciOiJIUzI1NiJ9".toList, payload.toList, "AAAA".toList⟩

def forgedToken (payload : String) : String :=
  (forgedParts payload).message ++ ".AAAA"

/-- The claims name an app and an expiry long past, and nobody. -/
def bareClaims : String := "eyJhcHBfaWQiOjEsImV4cCI6MH0"

/-- The claims are all that an administrator has. -/
def boastfulClaims : String :=
  "eyJ1aWQiOjEsImFwcF9pZCI6MSwiaXNfYWRtaW4iOnRydWUsImV4cCI6OTk5OTk5OTk5OSwidHlwZSI6ImFjY2VzcyJ9"

/-- Nothing is stored, and a second has passed. -/
def vacant : Passage := ⟨⟨⟨.empty, .empty⟩, ⟨1000000000⟩, fun _ count => List.replicate count 0, 0⟩, []⟩

open AccessToken

theorem names_forgedToken {payload : String} (claimed : (claimedApp (forgedToken payload)).toOption = some 1) :
    Names (forgedToken payload) 1 :=
  (claimedApp_eq_ok_iff _ 1).mp (eq_ok_of_toOption claimed)

/-- Under no secret does any message have a signature of three bytes. -/
theorem isForged_forgedToken {payload : String} (clean : '.' ∉ payload.toList) (secret : String) :
    IsForged Primitives.standard secret (forgedToken payload) := by
  have undotted : '.' ∉ "AAAA".toList := by decide
  have read : Base64.decode? Base64.urlSafe "AAAA".toList = some [0, 0, 0] := by decide
  refine ⟨forgedParts payload, [0, 0, 0], ⟨?_, clean, undotted⟩, read, fun same => ?_⟩
  · rw [forgedToken, String.toList_append, Parts.message, String.toList_ofList]
    rfl
  · have sizes : 3 = 32 := (congrArg List.length same).trans (Digest.length_hmacSha256 _ _)
    cases sizes

end Sample

/-- One token claims next to nothing and another all there is to claim, and both are refused for their signature.
A third one is signed, and so it is said to be late. -/
theorem only_the_app_is_trusted_of_three :
    let lookup : AppId -> Program (Except Error (Option String)) := fun _ => .done (.ok (some "secret"))
    let late := AccessToken.tokenOf Primitives.standard "secret" ⟨1, "ann@example.org", 1, false, 0⟩
    let run := fun token =>
      (Sample.standardService.verifyToken token lookup).runUnder (fun _ => none) Sample.vacant
    run (Sample.forgedToken Sample.bareClaims) = (.error .invalidSignature, Sample.vacant) ∧
      run (Sample.forgedToken Sample.boastfulClaims) = (.error .invalidSignature, Sample.vacant) ∧
      run late = (.error .expired, Sample.vacant) ∧
      ∃ appId secret, AccessToken.Names late appId ∧ AccessToken.IsSigned Primitives.standard secret late := by
  intro lookup late run
  have told := Service.only_the_app_is_trusted Sample.standardService lookup (fun _ => none) Sample.vacant
  have forged : forall secret, Except.ok (some "secret") = (.ok (some secret) : Except Error (Option String)) ->
      AccessToken.IsForged Primitives.standard secret (Sample.forgedToken Sample.bareClaims) ∧
        AccessToken.IsForged Primitives.standard secret (Sample.forgedToken Sample.boastfulClaims) :=
    fun secret _ => ⟨Sample.isForged_forgedToken (by decide) secret,
      Sample.isForged_forgedToken (by decide) secret⟩
  have refused := told.2.1 _ _ 1 (.ok (some "secret")) Sample.vacant
    (Sample.names_forgedToken (by decide +kernel)) (Sample.names_forgedToken (by decide +kernel)) rfl forged
  have tooLate : run late = (.error .expired, Sample.vacant) := by
    have claimed : AccessToken.claimedApp late = .ok 1 :=
      AccessToken.claimedApp_tokenOf Primitives.standard "secret" ⟨by decide, by decide, by decide⟩
    have expired : AccessToken.verifyFor Primitives.standard late 1 "secret" ⟨1000000000⟩ = .error .expired :=
      AccessToken.verifyFor_tokenOf Primitives.standard "secret" ⟨1000000000⟩ ⟨by decide, by decide, by decide⟩
        (by decide)
    exact (Service.runUnder_verifyToken ((AccessToken.claimedApp_eq_ok_iff late 1).mp claimed) rfl).trans
      (congrArg (·, Sample.vacant) expired)
  rcases told.2.2 late .expired Sample.vacant tooLate (by decide) with ⟨appId, secret, names, _, signed⟩
  exact ⟨refused.1, refused.2, tooLate, appId, secret, names, signed⟩

end SingleSignOn

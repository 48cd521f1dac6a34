import SingleSignOn.Proofs.AccessToken.Acceptance
import SingleSignOn.Proofs.Program.UnderMishaps
import SingleSignOn.Proofs.Store.TokenCalls
import SingleSignOn.Service.Call

namespace SingleSignOn.Service

/-!
# The check of an access token

The two stages of the check, with the look-up of the app between them, are
run under any mishaps of that look-up.  The check reports a token good
exactly if `Accepts` describes it, and fails exactly by its look-up.
-/

open AccessToken

variable (service : Service) (mishaps : Mishaps) (passage : Passage) (token : String)

/-- What is reported about a token whose check ended so. -/
def report : Except Rejection AccessClaims -> Except Error (Option AccessClaims)
  | .ok claims => .ok (some claims)
  | .error (.lookup cause) => .error cause
  | .error _ => .ok none

theorem program_validateToken :
    service.program (.validateToken token) =
      (service.verifyAccess token).bind fun outcome => .done (report outcome) := by
  refine (Program.bind_assoc (service.verifyAccess token) _ _).trans ?_
  refine congrArg _ (funext fun outcome => ?_)
  match outcome with
  | .ok claims => rfl
  | .error rejection => cases rejection <;> rfl

theorem report_eq_some_iff (outcome : Except Rejection AccessClaims) (claims : AccessClaims) :
    report outcome = .ok (some claims) ↔ outcome = .ok claims := by
  cases outcome with
  | ok found =>
    exact ⟨fun same => congrArg _ (Option.some.inj (Except.ok.inj same)),
      fun same => by cases same; rfl⟩
  | error rejection => cases rejection <;> exact ⟨nofun, nofun⟩

theorem report_eq_error_iff (outcome : Except Rejection AccessClaims) :
    (∃ error, report outcome = .error error) ↔ ∃ cause, outcome = .error (.lookup cause) := by
  cases outcome with
  | ok found => exact ⟨nofun, nofun⟩
  | error rejection =>
    cases rejection with
    | lookup cause => exact ⟨fun _ => ⟨cause, rfl⟩, fun _ => ⟨cause, rfl⟩⟩
    | _ => exact ⟨nofun, nofun⟩

theorem report_eq_none_iff (outcome : Except Rejection AccessClaims) :
    report outcome = .ok none ↔
      (forall claims, outcome ≠ .ok claims) ∧ ¬∃ cause, outcome = .error (.lookup cause) := by
  cases outcome with
  | ok found => exact ⟨nofun, fun ⟨other, _⟩ => absurd rfl (other found)⟩
  | error rejection =>
    cases rejection with
    | lookup cause => exact ⟨nofun, fun ⟨_, other⟩ => absurd ⟨cause, rfl⟩ other⟩
    | _ => exact ⟨fun _ => ⟨nofun, nofun⟩, fun _ => rfl⟩

theorem verifyAccess_of_error {rejection : Rejection}
    (refused : claimedApp token = .error rejection) :
    ((service.verifyAccess token).runUnder mishaps passage).1 = .error rejection := by
  unfold verifyAccess verifyToken
  rw [refused]
  rfl

theorem activeApp_runUnder (appId : AppId) :
    Program.runUnder mishaps (service.activeApp appId).run passage =
      ((match nextEnding service mishaps passage with
        | .refused error => .error error
        | .givenUp => .error .timeout
        | _ => .ok ((passage.world.stores.credentials.apps[appId]?).filter App.enabled)),
      ⟨passage.world, .credentials (.findAppById appId) :: passage.calls⟩) := by
  unfold activeApp
  rw [Operation.runUnder_bind, runUnder_credentials]
  cases nextEnding service mishaps passage <;> rfl

/-- What comes after an answered look-up. -/
def judge (world : World) (appId : AppId) : Except Rejection AccessClaims :=
  match (world.stores.credentials.apps[appId]?).filter App.enabled with
  | none => .error .unknownApp
  | some app => do
    let claims ← verifyFor service.primitives token appId app.secret world.now
    if claims.expiresAt ≤ world.now.unixSeconds then .error .expired else .ok claims

theorem verifyAccess_of_ok {appId : AppId} (named : claimedApp token = .ok appId) :
    ((service.verifyAccess token).runUnder mishaps passage).1 =
      match nextEnding service mishaps passage with
      | .refused error => .error (.lookup error)
      | .givenUp => .error (.lookup .timeout)
      | _ => judge service token passage.world appId := by
  unfold verifyAccess verifyToken
  rw [named]
  simp only [bind, Program.runUnder_bind]
  rw [activeApp_runUnder]
  unfold judge
  cases nextEnding service mishaps passage with
  | refused error => rfl
  | givenUp => rfl
  | carriedOut =>
    cases (passage.world.stores.credentials.apps[appId]?).filter App.enabled with
    | none => rfl
    | some app => rfl
  | miscounted =>
    cases (passage.world.stores.credentials.apps[appId]?).filter App.enabled with
    | none => rfl
    | some app => rfl

theorem judge_eq_ok_iff {world : World} {appId : AppId} (named : claimedApp token = .ok appId)
    (claims : AccessClaims) :
    judge service token world appId = .ok claims ↔
      Accepts service.primitives world.stores.credentials world.now token claims := by
  rw [accepts_iff]
  unfold judge
  constructor
  · intro judged
    split at judged
    case h_1 => cases judged
    rename_i app found
    rcases Option.filter_eq_some_iff.mp found with ⟨stored, enabled⟩
    rcases bind_eq_ok_iff.mp judged with ⟨verified, accepted, fresh⟩
    split at fresh
    case isTrue => cases fresh
    rename_i early
    cases fresh
    exact ⟨appId, app, (claimedApp_eq_ok_iff token appId).mp named, stored, enabled, accepted,
      Int.not_le.mp early⟩
  · rintro ⟨other, app, names, stored, enabled, verified, fresh⟩
    cases named.symm.trans ((claimedApp_eq_ok_iff token other).mpr names)
    rw [Option.filter_eq_some_iff.mpr ⟨stored, enabled⟩]
    exact bind_eq_ok_iff.mpr ⟨claims, verified, if_neg (Int.not_le.mpr fresh)⟩

theorem judge_ne_lookup (world : World) (appId : AppId) (cause : Error) :
    judge service token world appId ≠ .error (.lookup cause) := by
  intro judged
  unfold judge at judged
  split at judged
  · cases judged
  · next app found =>
    cases verified : verifyFor service.primitives token appId app.secret world.now with
    | error rejection =>
      rw [verified] at judged
      cases judged
      exact verifyFor_ne_lookup _ _ _ _ _ cause verified
    | ok claims =>
      rw [verified] at judged
      change (if _ then _ else _) = _ at judged
      split at judged
      · cases judged
      · cases judged

/-- The check succeeds with claims if the look-up answers and the token is good. -/
theorem verifyAccess_eq_ok_iff (claims : AccessClaims) :
    ((service.verifyAccess token).runUnder mishaps passage).1 = .ok claims ↔
      (nextEnding service mishaps passage).isEffective = true ∧
        Accepts service.primitives passage.world.stores.credentials passage.world.now token claims := by
  cases claimed : claimedApp token with
  | error rejection =>
    rw [verifyAccess_of_error service mishaps passage token claimed]
    refine ⟨nofun, fun ⟨_, accepts⟩ => ?_⟩
    cases claimed.symm.trans ((claimedApp_eq_ok_iff token claims.appId).mpr accepts.names)
  | ok appId =>
    rw [verifyAccess_of_ok service mishaps passage token claimed]
    cases nextEnding service mishaps passage with
    | refused error => exact ⟨nofun, fun ⟨impossible, _⟩ => nomatch impossible⟩
    | givenUp => exact ⟨nofun, fun ⟨impossible, _⟩ => nomatch impossible⟩
    | carriedOut =>
      exact (judge_eq_ok_iff service token claimed claims).trans (and_iff_right rfl).symm
    | miscounted =>
      exact (judge_eq_ok_iff service token claimed claims).trans (and_iff_right rfl).symm

/-- The check fails by its look-up if that is made and does not answer. -/
theorem verifyAccess_eq_lookup_iff :
    (∃ cause, ((service.verifyAccess token).runUnder mishaps passage).1 = .error (.lookup cause)) ↔
      (∃ appId, Names token appId) ∧ (nextEnding service mishaps passage).isEffective = false := by
  cases claimed : claimedApp token with
  | error rejection =>
    rw [verifyAccess_of_error service mishaps passage token claimed]
    constructor
    · rintro ⟨cause, same⟩
      cases same
      exact absurd claimed (claimedApp_ne_lookup token cause)
    · rintro ⟨⟨appId, names⟩, _⟩
      cases claimed.symm.trans ((claimedApp_eq_ok_iff token appId).mpr names)
  | ok appId =>
    have names : ∃ appId, Names token appId :=
      ⟨appId, (claimedApp_eq_ok_iff token appId).mp claimed⟩
    rw [verifyAccess_of_ok service mishaps passage token claimed]
    cases nextEnding service mishaps passage with
    | refused error => exact ⟨fun _ => ⟨names, rfl⟩, fun _ => ⟨error, rfl⟩⟩
    | givenUp => exact ⟨fun _ => ⟨names, rfl⟩, fun _ => ⟨.timeout, rfl⟩⟩
    | carriedOut =>
      exact ⟨fun ⟨cause, same⟩ => absurd same (judge_ne_lookup service token _ appId cause),
        fun ⟨_, impossible⟩ => nomatch impossible⟩
    | miscounted =>
      exact ⟨fun ⟨cause, same⟩ => absurd same (judge_ne_lookup service token _ appId cause),
        fun ⟨_, impossible⟩ => nomatch impossible⟩

/-- An access token is reported good, with its claims, if and only if the
look-up of its app answers and the token is one that `Accepts` describes.
The report fails if and only if that look-up was made and failed.  In every
other case the token is reported not good, without claims. -/
theorem validateToken_answer :
    (forall claims,
      ((service.program (.validateToken token)).runUnder mishaps passage).1 = .ok (some claims) ↔
      (nextEnding service mishaps passage).isEffective = true ∧
        Accepts service.primitives passage.world.stores.credentials passage.world.now token claims) ∧
    ((∃ error, ((service.program (.validateToken token)).runUnder mishaps passage).1 = .error error) ↔
      (∃ appId, Names token appId) ∧ (nextEnding service mishaps passage).isEffective = false) ∧
    (((service.program (.validateToken token)).runUnder mishaps passage).1 = .ok none ↔
      ((nextEnding service mishaps passage).isEffective = true ∨ ¬∃ appId, Names token appId) ∧
        forall claims,
          ¬Accepts service.primitives passage.world.stores.credentials passage.world.now token claims) := by
  have good := verifyAccess_eq_ok_iff service mishaps passage token
  have failing := verifyAccess_eq_lookup_iff service mishaps passage token
  rw [program_validateToken, Program.runUnder_bind]
  refine ⟨fun claims => (report_eq_some_iff _ claims).trans (good claims),
    (report_eq_error_iff _).trans failing, ?_⟩
  refine (report_eq_none_iff _).trans ?_
  rw [failing]
  simp only [ne_eq, good]
  cases (nextEnding service mishaps passage).isEffective with
  | true =>
    constructor
    · rintro ⟨refused, _⟩
      exact ⟨.inl rfl, fun claims accepts => refused claims ⟨rfl, accepts⟩⟩
    · rintro ⟨_, refused⟩
      refine ⟨fun claims both => refused claims both.2, ?_⟩
      rintro ⟨_, ⟨⟩⟩
  | false =>
    constructor
    · rintro ⟨_, unnamed⟩
      exact ⟨.inr fun names => unnamed ⟨names, rfl⟩,
        fun claims accepts => unnamed ⟨⟨_, accepts.names⟩, rfl⟩⟩
    · rintro ⟨impossible | unnamed, _⟩
      · cases impossible
      · refine ⟨?_, fun both => unnamed both.1⟩
        rintro claims ⟨⟨⟩, _⟩

end SingleSignOn.Service

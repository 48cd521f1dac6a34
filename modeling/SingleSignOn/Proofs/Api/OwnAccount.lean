import SingleSignOn.Proofs.AccessToken.Validation
import SingleSignOn.Proofs.Api.Endpoints
import SingleSignOn.Proofs.Service.Kinds
import SingleSignOn.Proofs.Service.Login
import SingleSignOn.Proofs.Store.OneUser

namespace SingleSignOn

/-!
# One's own account

The endpoints of one's own account take the user from the access token and
from nothing else.  Without a token that is good a request gets no further
than the look-up of an app, and its body is not even read.  With one, all
store calls that follow name the user of the token, and such calls leave the
records of everyone else as they are.
-/

/-! ## The bearer of a token -/

namespace Bytes

theorem ofString_ofList (chars : List Char) :
    ofString (String.ofList chars) = chars.flatMap String.utf8EncodeChar := by
  simp [ofString, List.utf8Encode]

/-- Bytes of ASCII are the text of their characters. -/
theorem exists_ofString_of_ascii (bytes : Bytes) (ascii : ∀ byte ∈ bytes, byte.toNat < 128) :
    ∃ text, ofString text = bytes := by
  exists String.ofList (bytes.map fun byte => Char.ofNat byte.toNat)
  rw [ofString_ofList, List.flatMap_map]
  induction bytes with
  | nil => rfl
  | cons byte rest hypothesis =>
    have others := hypothesis fun other member => ascii other (List.mem_cons_of_mem byte member)
    have small := ascii byte List.mem_cons_self
    have single : forall code, code < 128 -> String.utf8EncodeChar (Char.ofNat code) = [UInt8.ofNat code] := by
      decide
    rw [List.flatMap_cons, others, single byte.toNat small, UInt8.ofNat_toNat]
    rfl

end Bytes

namespace Http.Request

/-- A byte that a header of text may have: visible ASCII, a blank or a tab. -/
def IsPrintable (byte : UInt8) : Prop :=
  (32 ≤ byte.toNat ∧ byte.toNat < 127) ∨ byte.toNat = 9

/-- The first authorization header of a request is one of text that bears a token. -/
def Bears (request : Request) (token : String) : Prop :=
  ∃ value, request.header? "authorization" = some value ∧ (∀ byte ∈ value, IsPrintable byte) ∧
    value = Bytes.ofString "Bearer " ++ Bytes.ofString token

/-- A request that does not say who the caller is: its first authorization
header is missing, is no text, does not begin with the word for bearers, or
bears a token that is reported not good. -/
inductive IsUnidentified (service : Service) (world : World) (request : Request) : Prop
  | missing (absent : request.header? "authorization" = none)
  | illegible (value : Bytes) (given : request.header? "authorization" = some value)
      (unprintable : ∃ byte ∈ value, ¬IsPrintable byte)
  | otherScheme (value : Bytes) (given : request.header? "authorization" = some value)
      (other : ¬Bytes.ofString "Bearer " <+: value)
  | refused (token : String) (bears : request.Bears token)
      (invalid : (Operation.outcome (service.validateToken token) world).1 = .ok none)

/-- A request to an endpoint of one's own account. -/
structure ConcernsOwnAccount (request : Request) : Prop where
  method : request.method = "GET" ∨ request.method = "PATCH" ∨ request.method = "DELETE"
  path : Target.segments? request.target = some ["v1".toList, "users".toList, "me".toList]

end Http.Request

namespace Api

open Http

theorem isPrintable_iff (byte : UInt8) :
    ((32 ≤ byte.toNat && byte.toNat < 127) || byte == 9) = true ↔ Request.IsPrintable byte := by
  unfold Request.IsPrintable
  rw [Bool.or_eq_true, Bool.and_eq_true, decide_eq_true_iff, decide_eq_true_iff, beq_iff_eq]
  rw [← UInt8.toNat_inj]
  rfl

/-- The token of a header is what follows the word for bearers, if all of it is text. -/
theorem bearerToken?_eq_some_iff (value : Bytes) (token : String) :
    bearerToken? value = some token ↔ (∀ byte ∈ value, Request.IsPrintable byte) ∧
      value = Bytes.ofString "Bearer " ++ Bytes.ofString token := by
  have visible : (value.all fun byte => (32 ≤ byte.toNat && byte.toNat < 127) || byte == 9) = true ↔
      ∀ byte ∈ value, Request.IsPrintable byte := by
    rw [List.all_eq_true]
    exact forall₂_congr fun byte _ => isPrintable_iff byte
  unfold bearerToken?
  dsimp only
  constructor
  · intro read
    rcases Option.ite_none_right_eq_some.mp read with ⟨shown, decoded⟩
    rcases Bool.and_eq_true_iff.mp shown with ⟨printable, scheme⟩
    have whole := visible.mp printable
    have begins := eq_of_beq scheme
    have ascii : ∀ byte ∈ value.drop (Bytes.ofString "Bearer ").length, byte.toNat < 128 := by
      intro byte member
      rcases whole byte (List.mem_of_mem_drop member) with ⟨_, visible⟩ | tab
      · omega
      · omega
    rcases Bytes.exists_ofString_of_ascii _ ascii with ⟨text, written⟩
    rw [← written, Bytes.toString?_ofString] at decoded
    cases decoded
    constructor
    · exact whole
    · rw [written]
      exact (List.take_append_drop _ value).symm.trans (congrArg (· ++ _) begins)
  · rintro ⟨printable, rfl⟩
    rw [visible.mpr printable, List.take_left, beq_self_eq_true, List.drop_left]
    exact Bytes.toString?_ofString token

/-- A header bears no token if it is no text or does not begin with the word for bearers. -/
theorem bearerToken?_eq_none_iff (value : Bytes) :
    bearerToken? value = none ↔
      (∃ byte ∈ value, ¬Request.IsPrintable byte) ∨ ¬Bytes.ofString "Bearer " <+: value := by
  constructor
  · intro nothing
    by_cases printable : ∀ byte ∈ value, Request.IsPrintable byte
    · right
      rintro ⟨rest, rfl⟩
      have ascii : ∀ byte ∈ rest, byte.toNat < 128 := by
        intro byte member
        rcases printable byte (List.mem_append_right _ member) with ⟨_, visible⟩ | tab
        · omega
        · omega
      rcases Bytes.exists_ofString_of_ascii rest ascii with ⟨token, rfl⟩
      cases nothing.symm.trans ((bearerToken?_eq_some_iff _ token).mpr ⟨printable, rfl⟩)
    · left
      rcases not_forall.mp printable with ⟨byte, hidden⟩
      exact ⟨byte, Classical.not_imp.mp hidden⟩
  · intro unfit
    cases read : bearerToken? value with
    | none => rfl
    | some token =>
      rcases (bearerToken?_eq_some_iff value token).mp read with ⟨printable, written⟩
      rcases unfit with ⟨byte, member, hidden⟩ | other
      · exact absurd (printable byte member) hidden
      · exact absurd ⟨_, written.symm⟩ other

/-- Of a request that bears a token, the header tells which. -/
theorem bears_iff (request : Http.Request) (token : String) :
    (request.header? "authorization").bind bearerToken? = some token ↔ request.Bears token := by
  rw [Option.bind_eq_some_iff]
  exact exists_congr fun value => and_congr_right fun _ => bearerToken?_eq_some_iff value token

end Api

/-! ## What is told by the token -/

namespace Service

variable (service : Service) (mishaps : Mishaps) (passage : Passage) (token : String)

/-- What the caller of an endpoint is, by the report about the token. -/
def admitted : Except Error (Option AccessClaims) -> Except Error AccessClaims
  | .ok (some claims) => .ok claims
  | .ok none => .error .invalidCredentials
  | .error error => .error error

theorem program_authenticate :
    service.program (.authenticate token) =
      (service.program (.validateToken token)).bind fun report => .done (admitted report) := by
  rw [program_validateToken, Program.bind_assoc]
  refine (Program.bind_assoc (service.verifyAccess token) _ _).trans ?_
  refine congrArg _ (funext fun outcome => ?_)
  match outcome with
  | .ok claims => rfl
  | .error rejection => cases rejection <;> rfl

/-- The check of a token that names no app makes no store call. -/
theorem verifyAccess_passage_of_error {rejection : AccessToken.Rejection}
    (refused : AccessToken.claimedApp token = .error rejection) :
    ((service.verifyAccess token).runUnder mishaps passage).2 = passage := by
  unfold verifyAccess verifyToken
  rw [refused]
  rfl

/-- The check of a token looks at the app that it names. -/
theorem verifyAccess_passage_of_ok {appId : AppId} (named : AccessToken.claimedApp token = .ok appId) :
    ((service.verifyAccess token).runUnder mishaps passage).2 =
      ⟨passage.world, .credentials (.findAppById appId) :: passage.calls⟩ := by
  unfold verifyAccess verifyToken
  rw [named]
  simp only [bind, Program.runUnder_bind]
  rw [activeApp_runUnder]
  cases nextEnding service mishaps passage with
  | refused error => rfl
  | givenUp => rfl
  | carriedOut =>
    cases (passage.world.stores.credentials.apps[appId]?).filter App.enabled <;> rfl
  | miscounted =>
    cases (passage.world.stores.credentials.apps[appId]?).filter App.enabled <;> rfl

/-- The check of a token looks at one app at most, and leaves the world as it is. -/
theorem verifyAccess_passage :
    ∃ made, ((service.verifyAccess token).runUnder mishaps passage).2 = ⟨passage.world, made ++ passage.calls⟩ ∧
      ∀ call ∈ made, ∃ appId, call = .credentials (.findAppById appId) := by
  cases named : AccessToken.claimedApp token with
  | error rejection =>
    exists []
    constructor
    · exact service.verifyAccess_passage_of_error mishaps passage token named
    · intro call member
      cases member
  | ok appId =>
    exists [.credentials (.findAppById appId)]
    constructor
    · exact service.verifyAccess_passage_of_ok mishaps passage token named
    · intro call member
      exact ⟨appId, List.mem_singleton.mp member⟩

variable {service mishaps passage}

/-- Where every store call is carried out, the report about a token is that of a run without mishaps. -/
theorem runUnder_validateToken
    (carriedOut :
      forall number, (Course.under (some service.auth.storeTimeout) (mishaps number)).ending = .carriedOut) :
    ∃ made, (service.program (.validateToken token)).runUnder mishaps passage =
        ((Operation.outcome (service.validateToken token) passage.world).1, ⟨passage.world, made ++ passage.calls⟩) ∧
      ∀ call ∈ made, ∃ appId, call = .credentials (.findAppById appId) := by
  have alone := (service.heeds_validateToken token).runUnder_of_carriedOut carriedOut passage
  rcases service.verifyAccess_passage mishaps passage token with ⟨made, moved, lookups⟩
  exists made
  constructor
  · refine Prod.ext alone.1 ?_
    rw [program_validateToken, Program.runUnder_bind]
    exact moved
  · exact lookups

/-- If no look-up fails, a token is reported good or not good. -/
theorem outcome_validateToken_ne_error (world : World) (error : Error) :
    (Operation.outcome (service.validateToken token) world).1 ≠ .error error := by
  intro failed
  have reported := (validateToken_answer service Mishaps.nothing ⟨world, []⟩ token).2.1.mp
  have alone := (Program.runUnder_nothing (service.program (.validateToken token)) ⟨world, []⟩).1
  rcases reported ⟨error, alone.trans failed⟩ with ⟨_, impossible⟩
  cases impossible

end Service

/-! ## What is done for the caller -/

namespace Http.Handling

variable {α β : Type} {allowed : StoreCall -> Prop}

/-- Every store call of a handler is an allowed one. -/
def CallsOnly (allowed : StoreCall -> Prop) (handling : Handling α) : Prop :=
  handling.run.CallsOnly allowed

theorem CallsOnly.bind {handling : Handling α} {continuation : α -> Handling β}
    (first : CallsOnly allowed handling) (second : forall value, CallsOnly allowed (continuation value)) :
    CallsOnly allowed (handling >>= continuation) := by
  refine Program.CallsOnly.bind first fun result => ?_
  cases result with
  | ok value => exact second value
  | error response => trivial

theorem callsOnly_handled {operation : Operation α} (only : Operation.CallsOnly allowed operation) :
    CallsOnly allowed operation.handled := by
  refine Program.CallsOnly.bind only fun result => ?_
  cases result with
  | ok value => trivial
  | error error => trivial

theorem callsOnly_jsonBody (request : Request) (read : Json.Parsed -> Except Json.Fault α) :
    CallsOnly allowed (jsonBody request read) := by
  unfold jsonBody
  split
  · split <;> trivial
  · trivial

theorem CallsOnly.finish {handling : Handling Response} (only : CallsOnly allowed handling) :
    handling.finish.CallsOnly allowed := by
  refine Program.CallsOnly.bind only fun result => ?_
  cases result with
  | ok response => trivial
  | error response => trivial

end Http.Handling

namespace Api

open Http

/-- Whether an endpoint is one of one's own account. -/
def PublicEndpoint.isOwn : PublicEndpoint -> Bool
  | .ownAccount => true
  | .changeOwnAccount => true
  | .deleteOwnAccount => true
  | _ => false

/-- What an endpoint of one's own account does for a user.  The others do nothing for anyone. -/
def PublicEndpoint.actFor (service : Service) (request : Http.Request) (userId : UserId) :
    PublicEndpoint -> Handling Response
  | .ownAccount => do
    let user ← (service.userInfo userId).handled
    return .ofJson 200 (userView user)
  | .changeOwnAccount => do
    let change ← Handling.jsonBody request readProfileChange
    let user ← (service.updateUser userId change).handled
    return .ofJson 200 (userView user)
  | .deleteOwnAccount => do
    (service.deleteUser userId).handled
    return .ofStatus 204
  | _ => Handling.reject (.ofStatus 404)

/-- Of the caller, an endpoint of one's own account takes the user and nothing else. -/
theorem PublicEndpoint.handle_of_isOwn {endpoint : PublicEndpoint} (own : endpoint.isOwn = true) (service : Service)
    (parameters : List (List Char)) (request : Http.Request) :
    endpoint.handle service parameters request =
      (caller service request >>= fun claims => endpoint.actFor service request claims.userId) := by
  cases endpoint with
  | ownAccount => rfl
  | changeOwnAccount => rfl
  | deleteOwnAccount => rfl
  | _ => cases own

/-- What is done for a user acts on nobody else. -/
theorem PublicEndpoint.callsOnly_actFor (service : Service) (request : Http.Request) (userId : UserId)
    (endpoint : PublicEndpoint) :
    Handling.CallsOnly (StoreCall.ActsOn userId) (endpoint.actFor service request userId) := by
  have calls (call : ServiceCall) (acts : forall request, call.Makes request -> request.ActsOn userId) :
      Operation.CallsOnly (StoreCall.ActsOn userId) (service.operation call) :=
    (ServiceCall.callsOnly_makes service call).mono acts
  cases endpoint with
  | ownAccount =>
    have only := calls (.userInfo userId) fun _ made => by
      cases made with
      | userInfo => exact .reads
    exact (Handling.callsOnly_handled only).bind fun _ => trivial
  | changeOwnAccount =>
    refine (Handling.callsOnly_jsonBody request readProfileChange).bind fun change => ?_
    have only := calls (.updateUser userId change) fun _ made => by
      cases made with
      | updateUserReads => exact .reads
      | updateUser => exact .updates _
      | updateUserRevokes => exact .revokes
    exact (Handling.callsOnly_handled only).bind fun _ => trivial
  | deleteOwnAccount =>
    have only := calls (.deleteUser userId) fun _ made => by
      cases made with
      | deleteUserRevokes => exact .revokes
      | deleteUser => exact .deletes
    exact (Handling.callsOnly_handled only).bind fun _ => trivial
  | _ => trivial

/-- A request about one's own account is answered by an endpoint of it. -/
theorem answerPublic_ownAccount (service : Service) {request : Http.Request} (concerns : request.ConcernsOwnAccount) :
    ∃ endpoint : PublicEndpoint, answerPublic service request =
      (caller service request >>= fun claims => endpoint.actFor service request claims.userId).finish := by
  have routed (endpoint : PublicEndpoint) (own : endpoint.isOwn = true) (whole : request.method ≠ "HEAD")
      (found : Route.dispatch request.method ["v1".toList, "users".toList, "me".toList] publicRoutes =
        .found endpoint []) :
      ∃ endpoint : PublicEndpoint, answerPublic service request =
        (caller service request >>= fun claims => endpoint.actFor service request claims.userId).finish := by
    exists endpoint
    rw [← PublicEndpoint.handle_of_isOwn own service []]
    exact answer_of_dispatch _ concerns.path found whole
  rcases concerns.method with method | method | method
  · exact routed .ownAccount rfl (by rw [method]; decide) (by rw [method]; rfl)
  · exact routed .changeOwnAccount rfl (by rw [method]; decide) (by rw [method]; rfl)
  · exact routed .deleteOwnAccount rfl (by rw [method]; decide) (by rw [method]; rfl)

variable {service : Service} {request : Http.Request} {mishaps : Mishaps} {passage : Passage}

/-- A request is unidentified if it bears no token, or one that is reported not good. -/
theorem isUnidentified_iff (service : Service) (world : World) (request : Http.Request) :
    request.IsUnidentified service world ↔
      (request.header? "authorization").bind bearerToken? = none ∨ ∃ token, request.Bears token ∧
        (Operation.outcome (service.validateToken token) world).1 = .ok none := by
  constructor
  · intro unidentified
    cases unidentified with
    | missing absent => exact .inl (by rw [absent]; rfl)
    | illegible value given unprintable =>
      rw [given]
      exact .inl ((bearerToken?_eq_none_iff value).mpr (.inl unprintable))
    | otherScheme value given other =>
      rw [given]
      exact .inl ((bearerToken?_eq_none_iff value).mpr (.inr other))
    | refused token bears invalid => exact .inr ⟨token, bears, invalid⟩
  · rintro (nothing | ⟨token, bears, invalid⟩)
    · cases given : request.header? "authorization" with
      | none => exact .missing given
      | some value =>
        rw [given] at nothing
        rcases (bearerToken?_eq_none_iff value).mp nothing with unprintable | other
        · exact .illegible value given unprintable
        · exact .otherScheme value given other
    · exact .refused token bears invalid

/-- Any other request bears a token that is reported good. -/
theorem exists_claims_of_identified (service : Service) (world : World) (request : Http.Request)
    (identified : ¬request.IsUnidentified service world) :
    ∃ token claims, request.Bears token ∧
      (Operation.outcome (service.validateToken token) world).1 = .ok (some claims) := by
  rw [isUnidentified_iff, not_or] at identified
  rcases Option.ne_none_iff_exists'.mp identified.1 with ⟨token, borne⟩
  have bears := (bears_iff request token).mp borne
  rcases reported : (Operation.outcome (service.validateToken token) world).1 with error | _ | claims
  · exact absurd reported (service.outcome_validateToken_ne_error token world error)
  · exact absurd ⟨token, bears, reported⟩ identified.2
  · exact ⟨token, claims, bears, reported⟩

/-- Without a token there is nothing but the answer. -/
theorem answerPublic_of_none (concerns : request.ConcernsOwnAccount)
    (nothing : (request.header? "authorization").bind bearerToken? = none) :
    answerPublic service request = .done Error.invalidCredentials.response := by
  rcases answerPublic_ownAccount service concerns with ⟨endpoint, same⟩
  rw [same]
  unfold caller
  rw [nothing]
  rfl

/-- With a token, the report about it decides how the request is handled. -/
theorem answerPublic_of_bears (concerns : request.ConcernsOwnAccount) {token : String}
    (bears : request.Bears token) :
    ∃ endpoint : PublicEndpoint, answerPublic service request =
      (service.program (.validateToken token)).bind fun report =>
        match Service.admitted report with
        | .ok claims => (endpoint.actFor service request claims.userId).finish
        | .error error => .done error.response := by
  rcases answerPublic_ownAccount service concerns with ⟨endpoint, same⟩
  exists endpoint
  rw [same]
  unfold caller
  rw [(bears_iff request token).mpr bears]
  dsimp only
  rw [Handling.finish_bind_handled]
  change (service.program (.authenticate token)).bind _ = _
  rw [service.program_authenticate, Program.bind_assoc]
  refine congrArg _ (funext fun report => ?_)
  cases Service.admitted report with
  | ok claims => rfl
  | error error => rfl

/-- An unidentified request is refused, whatever its body, after the look-up of one app at most. -/
theorem runUnder_of_unidentified (concerns : request.ConcernsOwnAccount)
    (carriedOut : forall number, (Course.under (some service.auth.storeTimeout) (mishaps number)).ending = .carriedOut)
    (unidentified : request.IsUnidentified service passage.world) :
    ∃ made, (∀ call ∈ made, ∃ appId, call = .credentials (.findAppById appId)) ∧
      forall body, (answerPublic service { request with body := body }).runUnder mishaps passage =
        (Error.invalidCredentials.response, ⟨passage.world, made ++ passage.calls⟩) := by
  have other (body : Bytes) : Http.Request.ConcernsOwnAccount { request with body := body } :=
    ⟨concerns.method, concerns.path⟩
  rcases (isUnidentified_iff service passage.world request).mp unidentified with nothing | ⟨token, bears, invalid⟩
  · exists []
    constructor
    · intro call member
      cases member
    · intro body
      rw [answerPublic_of_none (other body) nothing]
      rfl
  · rcases service.runUnder_validateToken token carriedOut with ⟨made, reported, lookups⟩
    exists made
    constructor
    · exact lookups
    · intro body
      rcases answerPublic_of_bears (other body) bears with ⟨endpoint, same⟩
      rw [same, Program.runUnder_bind, reported, invalid]
      rfl

/-- A request of a known caller changes nothing of anybody else. -/
theorem agreeBut_of_identified (concerns : request.ConcernsOwnAccount)
    (sound : passage.world.stores.credentials.IsSound)
    (carriedOut : forall number, (Course.under (some service.auth.storeTimeout) (mishaps number)).ending = .carriedOut)
    {token : String} {claims : AccessClaims} (bears : request.Bears token)
    (valid : (Operation.outcome (service.validateToken token) passage.world).1 = .ok (some claims)) :
    Stores.AgreeBut claims.userId passage.world.stores
      ((answerPublic service request).runUnder mishaps passage).2.world.stores := by
  rcases service.runUnder_validateToken token carriedOut with ⟨made, reported, _⟩
  rcases answerPublic_of_bears concerns bears with ⟨endpoint, same⟩
  rw [same, Program.runUnder_bind, reported, valid]
  let holds (stores : Stores) : Prop :=
    stores.credentials.IsSound ∧ Stores.AgreeBut claims.userId passage.world.stores stores
  have kept (stores : Stores) (now : Instant) (call : StoreCall) (acts : call.ActsOn claims.userId)
      (held : holds stores) : holds (stores.answer now call).2 :=
    ⟨Stores.isSound_answer stores now call held.1, held.2.trans (Stores.AgreeBut.answer held.1 now acts)⟩
  have start : holds passage.world.stores := ⟨sound, .refl _⟩
  have only := (PublicEndpoint.callsOnly_actFor service request claims.userId endpoint).finish
  exact (Program.runUnder_preserves holds only kept mishaps ⟨passage.world, made ++ passage.calls⟩ start).2

/-- The endpoints of one's own account act for the user of the token alone.  A
request that does not say who the caller is has the answer 401 whatever its body
is, and nothing but an app is looked up.  Any other request changes at most the
record, the email entry, the grants and the refresh tokens of the caller. -/
theorem own_account_is_the_callers_alone (concerns : request.ConcernsOwnAccount)
    (sound : passage.world.stores.credentials.IsSound)
    (carriedOut :
      forall number, (Course.under (some service.auth.storeTimeout) (mishaps number)).ending = .carriedOut) :
    (request.IsUnidentified service passage.world ->
      ∃ made, (∀ call ∈ made, ∃ appId, call = .credentials (.findAppById appId)) ∧
        forall body, (answerPublic service { request with body := body }).runUnder mishaps passage =
          (.ofJson 401 (.record [("error", .text "Invalid credentials")]),
            ⟨passage.world, made ++ passage.calls⟩)) ∧
      (¬request.IsUnidentified service passage.world ->
        ∃ token claims, request.Bears token ∧
          (Operation.outcome (service.validateToken token) passage.world).1 = .ok (some claims) ∧
          Stores.AgreeBut claims.userId passage.world.stores
            ((answerPublic service request).runUnder mishaps passage).2.world.stores) := by
  constructor
  · intro unidentified
    exact runUnder_of_unidentified concerns carriedOut unidentified
  · intro identified
    rcases exists_claims_of_identified service passage.world request identified with ⟨token, claims, bears, valid⟩
    exact ⟨token, claims, bears, valid, agreeBut_of_identified concerns sound carriedOut bears valid⟩

end Api

namespace Sample

/-- The access token of the first login. -/
def ownToken : String :=
  match (Operation.outcome (service.login email password 1) world).1 with
  | .ok session => session.accessToken
  | .error _ => ""

/-- A request about one's own account that bears no token, and one that bears it. -/
def anonymous : Http.Request :=
  ⟨"GET", "/v1/users/me", [], []⟩

def closing : Http.Request :=
  ⟨"DELETE", "/v1/users/me", [⟨"Authorization", Bytes.ofString ("Bearer " ++ ownToken)⟩], []⟩

/-- What the second one comes to. -/
def closed : Http.Response × Passage :=
  (Api.answerPublic service closing).runUnder Mishaps.nothing ⟨loggedIn, []⟩

end Sample

/-- Without the token nothing happens, and with it the user is gone. -/
theorem own_account_is_the_callers_alone_of_closing :
    Sample.loggedIn.stores.credentials.IsSound ∧ Sample.anonymous.ConcernsOwnAccount ∧
      Sample.anonymous.IsUnidentified Sample.service Sample.loggedIn ∧
      (∃ made, (∀ call ∈ made, ∃ appId, call = .credentials (.findAppById appId)) ∧
        (Api.answerPublic Sample.service Sample.anonymous).runUnder Mishaps.nothing ⟨Sample.loggedIn, []⟩ =
          (.ofJson 401 (.record [("error", .text "Invalid credentials")]), ⟨Sample.loggedIn, made ++ []⟩)) ∧
      Sample.closing.ConcernsOwnAccount ∧ ¬Sample.closing.IsUnidentified Sample.service Sample.loggedIn ∧
      Sample.loggedIn.stores.credentials.users.size = 1 ∧ Sample.closed.2.world.stores.credentials.users.size = 0 ∧
      ∃ claims : AccessClaims, Stores.AgreeBut claims.userId Sample.loggedIn.stores Sample.closed.2.world.stores := by
  have sound : Sample.loggedIn.stores.credentials.IsSound :=
    Program.run_preserves (·.credentials.IsSound) (Program.callsOnly_true _)
      (fun stores now request _ => Stores.isSound_answer stores now request) Sample.world
      ((CredentialStore.isSound_empty.createUser _ _).createApp _ _)
  have carriedOut (number : Nat) :
      (Course.under (some Sample.service.auth.storeTimeout) (Mishaps.nothing number)).ending = .carriedOut := rfl
  have observed : Sample.loggedIn.stores.credentials.users.size = 1 ∧
      Sample.closed.2.world.stores.credentials.users.size = 0 ∧
      Http.Target.segments? Sample.closing.target = some ["v1".toList, "users".toList, "me".toList] := by
    decide +kernel
  rcases observed with ⟨present, gone, path⟩
  have anonymous : Sample.anonymous.ConcernsOwnAccount := ⟨.inl rfl, path⟩
  have closing : Sample.closing.ConcernsOwnAccount := ⟨.inr (.inr rfl), path⟩
  have unidentified : Sample.anonymous.IsUnidentified Sample.service Sample.loggedIn := .missing rfl
  have first := Api.own_account_is_the_callers_alone anonymous
    (show (Passage.mk Sample.loggedIn []).world.stores.credentials.IsSound from sound) carriedOut
  have second := Api.own_account_is_the_callers_alone closing
    (show (Passage.mk Sample.loggedIn []).world.stores.credentials.IsSound from sound) carriedOut
  -- A request that is refused would have left the user there.
  have identified : ¬Sample.closing.IsUnidentified Sample.service Sample.loggedIn := by
    intro unidentified
    rcases second.1 unidentified with ⟨_, _, answered⟩
    have bodiless : { Sample.closing with body := [] } = Sample.closing := rfl
    have same := answered []
    rw [bodiless] at same
    unfold Sample.closed at gone
    rw [same, present] at gone
    cases gone
  rcases first.1 unidentified with ⟨made, lookups, answered⟩
  rcases second.2 identified with ⟨_, claims, _, _, agree⟩
  exact ⟨sound, anonymous, unidentified, ⟨made, lookups, answered []⟩, closing, identified, present, gone,
    claims, agree⟩

end SingleSignOn

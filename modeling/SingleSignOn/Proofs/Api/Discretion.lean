import SingleSignOn.Http.RequestId
import SingleSignOn.Proofs.Api.OwnAccount
import SingleSignOn.Proofs.Service.Discretion

namespace SingleSignOn

/-!
# Secrets do not reach responses

The views of users and apps leave out the password hash and the secret, and the
answer to a failure leaves out what the database said.  So an endpoint that
does not use secrets has the same response over any two states that are the
same but for secrets.
-/

/-- The answer to a failure does not tell what the database said. -/
theorem Error.response_redacted (error : Error) : error.redacted.response = error.response := by
  cases error <;> rfl

theorem Error.response_eq {error failure : Error} (same : error.redacted = failure.redacted) :
    error.response = failure.response := by
  rw [← error.response_redacted, same, failure.response_redacted]

/-! ## Handlers -/

namespace Http.Handling

variable {α β : Type}

/-- A handler that is parallel to itself and ends the same. -/
def Hides (handling : Handling α) : Prop :=
  TryParallel Eq Eq handling handling

theorem hides_pure (value : α) : Hides (pure value) :=
  tryParallel_pure rfl

theorem hides_reject (response : Response) : Hides (reject response : Handling α) :=
  tryParallel_throw rfl

theorem Hides.bind {handling : Handling α} {continuation : α -> Handling β} (hides : Hides handling)
    (rest : forall value, Hides (continuation value)) : Hides (handling >>= continuation) := by
  refine TryParallel.bind hides fun value found same => ?_
  cases same
  exact rest value

theorem hides_jsonBody (request : Request) (read : Json.Parsed -> Except Json.Fault α) :
    Hides (jsonBody request read) := by
  unfold jsonBody
  split
  · split
    · exact hides_pure _
    · exact hides_reject _
    · exact hides_reject _
  · exact hides_reject _

theorem hides_number (parameters : List (List Char)) (position : Nat) : Hides (number parameters position) := by
  unfold number
  split
  · exact hides_pure _
  · exact hides_reject _

/-- A handler that makes a response of the answer to a call, and shows no secret. -/
theorem hides_told (service : Service) (call : ServiceCall) (keeps : call.usesSecrets = false)
    {render : call.Reply -> Response} (shows : forall reply, render (call.redact reply) = render reply) :
    Hides ((service.operation call).handled >>= fun reply => (pure (render reply) : Handling Response)) := by
  have told := TryParallel.adapt (service.tells_operation keeps) Error.response fun _ _ => Error.response_eq
  refine told.bind fun reply found same => ?_
  apply tryParallel_pure
  rw [← shows reply, same, shows found]

/-- A handler ends with the same response, early or late. -/
theorem Hides.finish {handling : Handling Response} (hides : Hides handling) :
    Program.Parallel Eq handling.finish handling.finish :=
  Program.Parallel.bind hides fun result answer ends =>
    match result, answer, ends with
    | .ok _, .ok _, same => .done same
    | .error _, .error _, same => .done same

end Http.Handling

namespace Api

open Http Http.Handling

variable {service : Service}

/-- No endpoint of the management interface tells a secret, but the one that creates an app. -/
theorem ManagementEndpoint.hides_handle {endpoint : ManagementEndpoint} (creates : endpoint ≠ .createApp)
    (parameters : List (List Char)) (request : Http.Request) :
    Hides (endpoint.handle service parameters request) := by
  have number (position : Nat) : Hides (Handling.number parameters position) := hides_number parameters position
  cases endpoint with
  | alive => exact hides_pure _
  | ready =>
    have checks : Program.Parallel (fun first second => readiness first = readiness second) service.checkStore
        service.checkStore := by
      refine .call _ (.credentials .ping) fun reply other same => ?_
      rcases reply with _ | _ | _ <;> rcases other with _ | _ | _ <;> first | exact .done rfl | cases same
    exact TryParallel.bind (tryParallel_lift checks) fun _ _ same => tryParallel_pure same
  | listApps =>
    refine hides_told service .listApps rfl fun apps => ?_
    exact congrArg (fun shown => Response.ofJson 200 (.list shown)) (List.map_map ..)
  | createApp => exact absurd rfl creates
  | getApp =>
    refine (number 0).bind fun appId => ?_
    exact hides_told service (.getApp appId) rfl fun _ => rfl
  | updateApp =>
    refine (number 0).bind fun appId => ?_
    refine (hides_jsonBody request _).bind fun update => ?_
    exact hides_told service (.updateApp appId update.name update.link) rfl fun _ => rfl
  | deleteApp =>
    refine (number 0).bind fun appId => ?_
    exact hides_told service (.deleteApp appId) rfl fun _ => rfl
  | setStatus =>
    refine (number 0).bind fun appId => ?_
    refine (hides_jsonBody request _).bind fun enabled => ?_
    exact hides_told service (.setEnabled appId enabled) rfl fun _ => rfl
  | listAppUsers =>
    refine (number 0).bind fun appId => ?_
    refine hides_told service (.listAppUsers appId) rfl fun members => ?_
    exact congrArg (fun shown => Response.ofJson 200 (.list shown)) (List.map_map ..)
  | grantAdmin =>
    refine (number 0).bind fun appId => ?_
    refine (number 1).bind fun userId => ?_
    exact hides_told service (.grantAdmin userId appId) rfl fun _ => rfl
  | revokeAdmin =>
    refine (number 0).bind fun appId => ?_
    refine (number 1).bind fun userId => ?_
    exact hides_told service (.revokeAdmin userId appId) rfl fun _ => rfl
  | listUsers =>
    refine hides_told service .listUsers rfl fun users => ?_
    exact congrArg (fun shown => Response.ofJson 200 (.list shown)) (List.map_map ..)

/-- Whether an endpoint of the public interface opens or checks a session. -/
def PublicEndpoint.usesSecrets : PublicEndpoint -> Bool
  | .login => true
  | .refresh => true
  | .validateToken => true
  | _ => false

/-- Nor does an endpoint of the public interface that uses none, and asks nobody who they are. -/
theorem PublicEndpoint.hides_handle {endpoint : PublicEndpoint} (keeps : endpoint.usesSecrets = false)
    (anonymous : endpoint.isOwn = false) (parameters : List (List Char)) (request : Http.Request) :
    Hides (endpoint.handle service parameters request) := by
  cases endpoint with
  | register =>
    refine (hides_jsonBody request _).bind fun registration => ?_
    exact hides_told service (.register registration.email registration.password registration.profile) rfl fun _ => rfl
  | logout =>
    refine (hides_jsonBody request _).bind fun token => ?_
    exact hides_told service (.logout token) rfl fun _ => rfl
  | adminStatus =>
    refine (hides_number parameters 0).bind fun appId => ?_
    refine (hides_number parameters 1).bind fun userId => ?_
    exact hides_told service (.isAdmin userId appId) rfl fun _ => rfl
  | ownAccount => cases anonymous
  | changeOwnAccount => cases anonymous
  | deleteOwnAccount => cases anonymous
  | _ => cases keeps

/-- Nor does what is done for a user. -/
theorem PublicEndpoint.hides_actFor (endpoint : PublicEndpoint) (request : Http.Request) (userId : UserId) :
    Hides (endpoint.actFor service request userId) := by
  cases endpoint with
  | ownAccount => exact hides_told service (.userInfo userId) rfl fun _ => rfl
  | changeOwnAccount =>
    refine (hides_jsonBody request _).bind fun change => ?_
    exact hides_told service (.updateUser userId change) rfl fun _ => rfl
  | deleteOwnAccount => exact hides_told service (.deleteUser userId) rfl fun _ => rfl
  | _ => exact hides_reject _

end Api

/-! ## Requests -/

/-- A request is for a method at a path. -/
structure Http.Request.IsFor (request : Http.Request) (method : String) (path : List String) : Prop where
  method_eq : request.method = method
  path_eq : Http.Target.segments? request.target = some (path.map String.toList)

/-- Two requests differ at most in the token that they bear. -/
structure Http.Request.AgreesButBearer (request variant : Http.Request) : Prop where
  method_eq : variant.method = request.method
  target_eq : variant.target = request.target
  body_eq : variant.body = request.body
  header?_eq : forall name, Http.lowered name ≠ "authorization" -> variant.header? name = request.header? name

namespace Http

/-- What a route table says comes from an entry for the path. -/
theorem Route.exists_of_dispatch {Endpoint : Type} {routes : List (Route Endpoint)} {method : String}
    {segments parameters : List (List Char)} {endpoint : Endpoint}
    (found : dispatch method segments routes = .found endpoint parameters) :
    ∃ route ∈ routes, matchSegments route.pattern segments = some parameters ∧
      route.endpoint? method = some endpoint := by
  induction routes with
  | nil => cases found
  | cons route routes hypothesis =>
    unfold dispatch at found
    split at found
    · rcases hypothesis found with ⟨other, member, holds⟩
      exact ⟨other, List.mem_cons_of_mem route member, holds⟩
    · next _ fits =>
      split at found
      · next _ entry =>
        cases found
        exact ⟨route, List.mem_cons_self, fits, entry⟩
      · cases found

/-- The entry is one of the method, or one whose head is asked for. -/
theorem Route.mem_of_endpoint? {Endpoint : Type} {route : Route Endpoint} {method : String} {endpoint : Endpoint}
    (found : route.endpoint? method = some endpoint) :
    (method, endpoint) ∈ route.methods ∨ ("GET", endpoint) ∈ route.methods := by
  have mem (name : String) (listed : route.methods.lookup name = some endpoint) :
      (name, endpoint) ∈ route.methods := by
    rcases List.lookup_eq_some_iff.mp listed with ⟨before, after, same, _⟩
    rw [same]
    exact List.mem_append_right before List.mem_cons_self
  unfold endpoint? at found
  split at found
  · next _ listed =>
    cases found
    exact .inl (mem method listed)
  · split at found
    · exact .inr (mem "GET" found)
    · cases found

/-- A path of nothing but literals fits itself alone. -/
theorem segments_of_literals {texts : List String} {segments parameters : List (List Char)}
    (fits : matchSegments (texts.map .literal) segments = some parameters) : segments = texts.map String.toList := by
  induction texts generalizing segments parameters with
  | nil =>
    cases segments with
    | nil => rfl
    | cons segment segments => cases fits
  | cons text texts hypothesis =>
    cases segments with
    | nil => cases fits
    | cons segment segments =>
      rw [List.map_cons] at fits
      simp only [matchSegments] at fits
      split at fits
      · next first => rw [List.map_cons, ← first, ← hypothesis fits]
      · cases fits

/-- An endpoint that has one entry in a table, at a path of literals, is reached by requests for it alone. -/
theorem Request.isFor_of_dispatch {Endpoint : Type} {routes : List (Route Endpoint)} {endpoint : Endpoint}
    {method : String} {path : List String}
    (only : ∀ route ∈ routes, ∀ entry ∈ route.methods, entry.2 = endpoint ->
      route.pattern = path.map Segment.literal ∧ entry.1 = method)
    (changes : "GET" ≠ method) {request : Request} {segments parameters : List (List Char)}
    (split : Target.segments? request.target = some segments)
    (found : Route.dispatch request.method segments routes = .found endpoint parameters) :
    request.IsFor method path := by
  rcases Route.exists_of_dispatch found with ⟨route, member, fits, entry⟩
  rcases Route.mem_of_endpoint? entry with listed | listed
  · rcases only route member _ listed rfl with ⟨pattern, same⟩
    rw [pattern] at fits
    constructor
    · exact same
    · rw [split, segments_of_literals fits]
  · exact absurd (only route member _ listed rfl).2 changes

/-- An endpoint whose entries in a table are at one path of literals is reached by requests at this path alone. -/
theorem Request.path_of_dispatch {Endpoint : Type} {routes : List (Route Endpoint)} {endpoint : Endpoint}
    {path : List String}
    (only : ∀ route ∈ routes, ∀ entry ∈ route.methods, entry.2 = endpoint ->
      route.pattern = path.map Segment.literal)
    {request : Request} {segments parameters : List (List Char)}
    (split : Target.segments? request.target = some segments)
    (found : Route.dispatch request.method segments routes = .found endpoint parameters) :
    Target.segments? request.target = some (path.map String.toList) := by
  rcases Route.exists_of_dispatch found with ⟨route, member, fits, entry⟩
  have pattern : route.pattern = path.map Segment.literal := by
    rcases Route.mem_of_endpoint? entry with listed | listed
    · exact only route member _ listed rfl
    · exact only route member _ listed rfl
  rw [pattern] at fits
  rw [split, segments_of_literals fits]

namespace Request.AgreesButBearer

variable {request variant : Request}

/-- The body is read the same, whoever sends it. -/
theorem jsonBody (alike : request.AgreesButBearer variant) {α : Type} (read : Json.Parsed -> Except Json.Fault α) :
    Handling.jsonBody variant read = Handling.jsonBody request read := by
  unfold Handling.jsonBody Handling.saysJson
  rw [alike.header?_eq "content-type" (by decide +kernel), alike.body_eq]

theorem handleManagement (alike : request.AgreesButBearer variant) (service : Service)
    (endpoint : Api.ManagementEndpoint) (parameters : List (List Char)) :
    endpoint.handle service parameters variant = endpoint.handle service parameters request := by
  cases endpoint <;> simp only [Api.ManagementEndpoint.handle, alike.jsonBody]

theorem handlePublic (alike : request.AgreesButBearer variant) {endpoint : Api.PublicEndpoint}
    (anonymous : endpoint.isOwn = false) (service : Service) (parameters : List (List Char)) :
    endpoint.handle service parameters variant = endpoint.handle service parameters request := by
  cases endpoint with
  | ownAccount => cases anonymous
  | changeOwnAccount => cases anonymous
  | deleteOwnAccount => cases anonymous
  | _ => simp only [Api.PublicEndpoint.handle, alike.jsonBody]

theorem actFor (alike : request.AgreesButBearer variant) (service : Service) (userId : UserId)
    (endpoint : Api.PublicEndpoint) :
    endpoint.actFor service variant userId = endpoint.actFor service request userId := by
  cases endpoint <;> simp only [Api.PublicEndpoint.actFor, alike.jsonBody]

end Request.AgreesButBearer

end Http

/-! ## The caller -/

namespace Api

open Http Http.Handling

variable {service : Service} {mishaps others : Mishaps} {passage other : Passage} {request variant : Http.Request}

/-- The user whom a request is taken to come from, or the response by which it is refused. -/
def identity (service : Service) (mishaps : Mishaps) (passage : Passage) (request : Http.Request) :
    Except Response UserId :=
  ((caller service request).run.runUnder mishaps passage).1.map AccessClaims.userId

/-- The caller by the outcome of the check of their token. -/
def callerOf (outcome : Except AccessToken.Rejection AccessClaims) : Except Response AccessClaims :=
  match Service.admitted (Service.report outcome) with
  | .ok claims => .ok claims
  | .error error => .error error.response

theorem run_caller_of_some {token : String} (borne : (request.header? "authorization").bind bearerToken? = some token) :
    (caller service request).run = (service.verifyAccess token).bind fun outcome => .done (callerOf outcome) := by
  have checks := service.program_authenticate token
  rw [Service.program_validateToken, Program.bind_assoc] at checks
  unfold caller
  rw [borne]
  refine (congrArg (Program.bind · _) checks).trans ((Program.bind_assoc _ _ _).trans ?_)
  refine congrArg _ (funext fun outcome => ?_)
  unfold callerOf
  change Program.bind (Program.done (Service.admitted (Service.report outcome))) _ = _
  cases Service.admitted (Service.report outcome) with
  | ok claims => rfl
  | error error => rfl

theorem run_caller_of_none (nothing : (request.header? "authorization").bind bearerToken? = none) :
    (caller service request).run = .done (.error Error.invalidCredentials.response) := by
  unfold caller
  rw [nothing]
  rfl

theorem callerOf_error_ne_ok (rejection : AccessToken.Rejection) (claims : AccessClaims) :
    callerOf (.error rejection) ≠ .ok claims := by
  cases rejection <;> exact nofun

/-- Finding out who the caller is leaves the world as it is, and takes one store call if it succeeds. -/
theorem runUnder_caller (service : Service) (mishaps : Mishaps) (passage : Passage) (request : Http.Request) :
    ((caller service request).run.runUnder mishaps passage).2.world = passage.world ∧
      forall claims, ((caller service request).run.runUnder mishaps passage).1 = .ok claims ->
        ((caller service request).run.runUnder mishaps passage).2.calls.length = passage.calls.length + 1 := by
  cases borne : (request.header? "authorization").bind bearerToken? with
  | none =>
    rw [run_caller_of_none borne]
    exact ⟨rfl, nofun⟩
  | some token =>
    rw [run_caller_of_some borne, Program.runUnder_bind]
    cases named : AccessToken.claimedApp token with
    | error rejection =>
      rw [service.verifyAccess_passage_of_error mishaps passage token named,
        service.verifyAccess_of_error mishaps passage token named]
      exact ⟨rfl, fun claims accepted => absurd accepted (callerOf_error_ne_ok rejection claims)⟩
    | ok appId =>
      rw [service.verifyAccess_passage_of_ok mishaps passage token named]
      exact ⟨rfl, fun _ _ => rfl⟩

/-- Who the caller is does not depend on what was drawn before. -/
theorem identity_of_drawn (service : Service) (mishaps : Mishaps) (passage : Passage) (request : Http.Request)
    (draws : Nat) :
    identity service mishaps ⟨{ passage.world with draws := draws }, passage.calls⟩ request =
      identity service mishaps passage request := by
  unfold identity
  cases borne : (request.header? "authorization").bind bearerToken? with
  | none =>
    rw [run_caller_of_none borne]
    rfl
  | some token =>
    rw [run_caller_of_some borne, Program.runUnder_bind, Program.runUnder_bind]
    cases named : AccessToken.claimedApp token with
    | error rejection =>
      rw [service.verifyAccess_of_error mishaps _ token named, service.verifyAccess_of_error mishaps _ token named]
      rfl
    | ok appId =>
      rw [service.verifyAccess_of_ok mishaps _ token named, service.verifyAccess_of_ok mishaps _ token named]
      rfl

/-! ## Responses -/

/-- Two runs have the same response, and lead to worlds that are the same but for secrets. -/
structure Indistinct (first second : Response × Passage) : Prop where
  response : first.1 = second.1
  worlds : first.2.world.redacted = second.2.world.redacted

/-- Parallel programs that end the same have indistinct runs. -/
theorem indistinct_of_parallel {first second : Program Response} (parallel : Program.Parallel Eq first second)
    (faults : mishaps.redacted = others.redacted) (alike : passage.Matches other) :
    Indistinct (first.runUnder mishaps passage) (second.runUnder others other) := by
  rcases parallel.runUnder faults alike with ⟨same, later⟩
  exact ⟨same, later.worlds⟩

/-- What is made of indistinct responses is indistinct. -/
theorem Indistinct.map {first second : Program Response}
    (indistinct : Indistinct (first.runUnder mishaps passage) (second.runUnder others other))
    (make : Response -> Response) :
    Indistinct ((first.bind fun response => .done (make response)).runUnder mishaps passage)
      ((second.bind fun response => .done (make response)).runUnder others other) := by
  rw [Program.runUnder_bind, Program.runUnder_bind]
  exact ⟨congrArg make indistinct.response, indistinct.worlds⟩

/-- What is done for the same user, whoever of them the bearer is, is indistinct. -/
theorem indistinct_of_caller {act : UserId -> Handling Response} (hides : forall userId, Hides (act userId))
    (faults : mishaps.redacted = others.redacted) (alike : passage.Matches other)
    (known : identity service mishaps passage request = identity service others other variant) :
    Indistinct ((caller service request >>= fun claims => act claims.userId).finish.runUnder mishaps passage)
      ((caller service variant >>= fun claims => act claims.userId).finish.runUnder others other) := by
  rw [finish_bind, finish_bind, Program.runUnder_bind, Program.runUnder_bind]
  have first := runUnder_caller service mishaps passage request
  have second := runUnder_caller service others other variant
  have worlds : ((caller service request).run.runUnder mishaps passage).2.world.redacted =
      ((caller service variant).run.runUnder others other).2.world.redacted := by
    rw [first.1, second.1]
    exact alike.worlds
  unfold identity at known
  rcases ran : (caller service request).run.runUnder mishaps passage with ⟨refusal | claims, later⟩ <;>
    rcases ranToo : (caller service variant).run.runUnder others other with ⟨refused | found, further⟩ <;>
    rw [ran] at first known worlds <;> rw [ranToo] at second known worlds
  · exact ⟨Except.error.inj known, worlds⟩
  · cases known
  · cases known
  · have same : claims.userId = found.userId := Except.ok.inj known
    have count : later.calls.length = further.calls.length := by
      rw [first.2 claims rfl, second.2 found rfl, alike.count]
    change Indistinct ((act claims.userId).finish.runUnder mishaps later)
      ((act found.userId).finish.runUnder others further)
    rw [same]
    exact indistinct_of_parallel (hides found.userId).finish faults ⟨worlds, count⟩

/-- Requests for the same are answered by the same endpoint. -/
theorem indistinct_answer {Endpoint : Type} {routes : List (Route Endpoint)}
    {run : Endpoint -> List (List Char) -> Http.Request -> Program Response}
    (variation : request.AgreesButBearer variant) (alike : passage.Matches other)
    (each : forall endpoint segments parameters, Target.segments? request.target = some segments ->
      Route.dispatch request.method segments routes = .found endpoint parameters ->
      Indistinct ((run endpoint parameters request).runUnder mishaps passage)
        ((run endpoint parameters variant).runUnder others other)) :
    Indistinct ((Http.answer routes run request).runUnder mishaps passage)
      ((Http.answer routes run variant).runUnder others other) := by
  unfold Http.answer
  rw [variation.target_eq]
  split
  · exact ⟨rfl, alike.worlds⟩
  · next segments path =>
    rw [variation.method_eq]
    split
    · exact ⟨rfl, alike.worlds⟩
    · exact ⟨rfl, alike.worlds⟩
    · next endpoint parameters found =>
      exact (each endpoint segments parameters path found).map fun response =>
        if request.method = "HEAD" then response.headOnly else response

/-- The identifier that a response repeats is given, or drawn at both sides. -/
theorem indistinct_identified {answer : Http.Request -> Program Response} (variation : request.AgreesButBearer variant)
    (alike : passage.Matches other)
    (each : forall draws, Indistinct
      ((answer request).runUnder mishaps ⟨{ passage.world with draws := draws }, passage.calls⟩)
      ((answer variant).runUnder others ⟨{ other.world with draws := draws }, other.calls⟩)) :
    Indistinct ((Http.identified answer request).runUnder mishaps passage)
      ((Http.identified answer variant).runUnder others other) := by
  have draws : passage.world.draws = other.world.draws := by
    have same := congrArg World.draws alike.worlds
    exact same
  unfold Http.identified
  rw [variation.header?_eq requestIdHeader (by decide +kernel)]
  split
  · next given _ =>
    have plain := each passage.world.draws
    have undrawn : ({ other.world with draws := passage.world.draws } : World) = other.world := by rw [draws]
    rw [undrawn] at plain
    exact plain.map fun response => response.withHeader requestIdHeader given
  · have drawn := each (passage.world.draws + 1)
    let identifier (random : Bytes) : Bytes := Bytes.ofString (randomIdentifier random)
    have named := drawn.map fun response =>
      response.withHeader requestIdHeader (identifier (passage.world.drawBytes 16).1)
    have bytes := (alike.drawBytes 16).1
    change Indistinct
      (Program.runUnder mishaps ((answer request).bind fun response =>
          .done (response.withHeader requestIdHeader (identifier (passage.world.drawBytes 16).1)))
        ⟨(passage.world.drawBytes 16).2, passage.calls⟩)
      (Program.runUnder others ((answer variant).bind fun response =>
          .done (response.withHeader requestIdHeader (identifier (other.world.drawBytes 16).1)))
        ⟨(other.world.drawBytes 16).2, other.calls⟩)
    rw [← bytes]
    have next : ({ other.world with draws := passage.world.draws + 1 } : World) = (other.world.drawBytes 16).2 := by
      rw [draws]
      rfl
    rw [next] at named
    exact named

/-- An endpoint of the public interface that neither opens nor checks a session tells no secret, as long as a
caller of one's own account is the same user. -/
theorem PublicEndpoint.indistinct_handle {endpoint : PublicEndpoint} (keeps : endpoint.usesSecrets = false)
    (variation : request.AgreesButBearer variant) (faults : mishaps.redacted = others.redacted)
    (alike : passage.Matches other)
    (known : endpoint.isOwn = true ->
      identity service mishaps passage request = identity service others other variant)
    (parameters : List (List Char)) :
    Indistinct ((endpoint.handle service parameters request).finish.runUnder mishaps passage)
      ((endpoint.handle service parameters variant).finish.runUnder others other) := by
  cases own : endpoint.isOwn with
  | false =>
    rw [variation.handlePublic own]
    exact indistinct_of_parallel (hides_handle keeps own parameters request).finish faults alike
  | true =>
    rw [handle_of_isOwn own, handle_of_isOwn own]
    simp only [variation.actFor]
    exact indistinct_of_caller (endpoint.hides_actFor request) faults alike (known own)

/-- One's own account is at one path. -/
theorem path_of_isOwn {endpoint : PublicEndpoint} (own : endpoint.isOwn = true)
    {segments parameters : List (List Char)} (path : Target.segments? request.target = some segments)
    (found : Route.dispatch request.method segments publicRoutes = .found endpoint parameters) :
    Target.segments? request.target = some (["v1", "users", "me"].map String.toList) := by
  cases endpoint with
  | ownAccount => exact Request.path_of_dispatch (by decide) path found
  | changeOwnAccount => exact Request.path_of_dispatch (by decide) path found
  | deleteOwnAccount => exact Request.path_of_dispatch (by decide) path found
  | _ => cases own

/-- Secrets do not reach responses.  Over two states of the stores that are the
same but for password hashes and secrets of apps, and under the same mishaps but
for what the database says, a request has the same response and leads to states
that again are the same but for hashes and secrets.  On the management interface
this holds of every request but the creation of an app.  On the public interface
it holds of every request that neither opens nor checks a session; at one's own
account the request may bear another token, as long as the user is the same. -/
theorem secrets_do_not_reach_responses (service : Service) {world other : World}
    (worlds : world.redacted = other.redacted) (faults : mishaps.redacted = others.redacted)
    (variation : request.AgreesButBearer variant) :
    (¬request.IsFor "POST" ["apps"] ->
      Indistinct ((Http.identified (answerManagement service) request).runUnder mishaps ⟨world, []⟩)
        ((Http.identified (answerManagement service) variant).runUnder others ⟨other, []⟩)) ∧
      (¬request.IsFor "POST" ["v1", "sessions"] -> ¬request.IsFor "POST" ["v1", "sessions", "refresh"] ->
        ¬request.IsFor "POST" ["v1", "tokens", "validate"] ->
        (Target.segments? request.target = some (["v1", "users", "me"].map String.toList) ->
          identity service mishaps ⟨world, []⟩ request = identity service others ⟨other, []⟩ variant) ->
        Indistinct ((Http.identified (answerPublic service) request).runUnder mishaps ⟨world, []⟩)
          ((Http.identified (answerPublic service) variant).runUnder others ⟨other, []⟩)) := by
  have alike : Passage.Matches ⟨world, []⟩ ⟨other, []⟩ := ⟨worlds, rfl⟩
  have drawn (draws : Nat) : Passage.Matches ⟨{ world with draws := draws }, []⟩ ⟨{ other with draws := draws }, []⟩ :=
    ⟨congrArg (fun world => { world with draws := draws }) worlds, rfl⟩
  constructor
  · intro creates
    refine indistinct_identified variation alike fun draws => ?_
    refine indistinct_answer variation (drawn draws) fun endpoint segments parameters path found => ?_
    have other : endpoint ≠ .createApp := by
      rintro rfl
      exact creates (Request.isFor_of_dispatch (by decide) (by decide) path found)
    rw [variation.handleManagement]
    exact indistinct_of_parallel (ManagementEndpoint.hides_handle other parameters request).finish faults (drawn draws)
  · intro login refresh validateToken known
    refine indistinct_identified variation alike fun draws => ?_
    refine indistinct_answer variation (drawn draws) fun endpoint segments parameters path found => ?_
    have keeps : endpoint.usesSecrets = false := by
      cases endpoint with
      | login => exact absurd (Request.isFor_of_dispatch (by decide) (by decide) path found) login
      | refresh => exact absurd (Request.isFor_of_dispatch (by decide) (by decide) path found) refresh
      | validateToken => exact absurd (Request.isFor_of_dispatch (by decide) (by decide) path found) validateToken
      | _ => rfl
    refine PublicEndpoint.indistinct_handle keeps variation faults (drawn draws) (fun own => ?_) parameters
    have same := known (path_of_isOwn own path found)
    rw [← identity_of_drawn service mishaps ⟨world, []⟩ request draws,
      ← identity_of_drawn service others ⟨other, []⟩ variant draws] at same
    exact same

end Api

namespace Sample

/-- A service whose access tokens show the secret that they were made with. -/
def keyed : Service :=
  ⟨{ primitives with mac := fun key _ => key }, service.auth, service.cost⟩

/-- The same records with another hash and another secret. -/
def resecured : World :=
  { world with stores := { world.stores with credentials := { credentials with
    users := credentials.users.map fun _ user => { user with passwordHash := "other" }
    apps := credentials.apps.map fun _ app => { app with secret := "other" } } } }

/-- The third store call fails, in one way or another. -/
def failing (cause : DatabaseError) : Mishaps :=
  fun number => if number = 2 then some (.refusal (.database cause)) else none

/-- The users are listed. -/
def listing : Http.Request :=
  ⟨"GET", "/users", [], []⟩

def listed (start : World) : Http.Response × Passage :=
  (Http.identified (Api.answerManagement keyed) listing).runUnder Mishaps.nothing ⟨start, []⟩

/-- The user leaves with an access token that was made with a secret. -/
def departing (secret : String) : Http.Request :=
  let token := match AccessToken.issue keyed.primitives ⟨1, email, 1, false⟩ secret 60 ⟨0⟩ with
    | .ok (token, _) => token
    | .error _ => ""
  ⟨"DELETE", "/v1/users/me", [⟨"Authorization", Bytes.ofString ("Bearer " ++ token)⟩], []⟩

def departed (secret : String) (cause : DatabaseError) (start : World) : Http.Response × Passage :=
  (Http.identified (Api.answerPublic keyed) (departing secret)).runUnder (failing cause) ⟨start, []⟩

end Sample

/-- A listing shows no hash, and a user who leaves is not told what the database said, although their token
would not do where the secret is another. -/
theorem secrets_do_not_reach_responses_of_resecured :
    Sample.world.redacted = Sample.resecured.redacted ∧
      (Sample.failing .poolClosed).redacted = (Sample.failing .workerCrashed).redacted ∧
      Sample.listing.AgreesButBearer Sample.listing ∧
      ¬Sample.listing.IsFor "POST" ["apps"] ∧
      Api.Indistinct (Sample.listed Sample.world) (Sample.listed Sample.resecured) ∧
      (Sample.listed Sample.world).1.status = 200 ∧
      (Sample.departing "secret").AgreesButBearer (Sample.departing "other") ∧
      (forall path, ¬(Sample.departing "secret").IsFor "POST" path) ∧
      Api.identity Sample.keyed (Sample.failing .poolClosed) ⟨Sample.world, []⟩ (Sample.departing "secret") = .ok 1 ∧
      Api.identity Sample.keyed (Sample.failing .workerCrashed) ⟨Sample.resecured, []⟩ (Sample.departing "other") =
        .ok 1 ∧
      Api.Indistinct (Sample.departed "secret" .poolClosed Sample.world)
        (Sample.departed "other" .workerCrashed Sample.resecured) ∧
      (Sample.departed "secret" .poolClosed Sample.world).1.status = 500 ∧
      (Sample.departed "secret" .workerCrashed Sample.resecured).1.status = 401 := by
  have worlds : Sample.world.redacted = Sample.resecured.redacted := by
    have credentials : Sample.world.stores.credentials.redacted = Sample.resecured.stores.credentials.redacted :=
      CredentialStore.redacted_congr Std.ExtTreeMap.map_map.symm Std.ExtTreeMap.map_map.symm rfl rfl rfl rfl rfl
    exact congrArg (fun credentials => { Sample.world with stores := ⟨credentials, .empty⟩ }) credentials
  have faults : (Sample.failing .poolClosed).redacted = (Sample.failing .workerCrashed).redacted := by
    funext number
    unfold Mishaps.redacted Sample.failing
    split <;> rfl
  have observed : (Sample.listed Sample.world).1.status = 200 ∧
      (Api.identity Sample.keyed (Sample.failing .poolClosed) ⟨Sample.world, []⟩
        (Sample.departing "secret")).toOption = some 1 ∧
      (Api.identity Sample.keyed (Sample.failing .workerCrashed) ⟨Sample.resecured, []⟩
        (Sample.departing "other")).toOption = some 1 ∧
      (Sample.departed "secret" .poolClosed Sample.world).1.status = 500 ∧
      (Sample.departed "secret" .workerCrashed Sample.resecured).1.status = 401 := by
    decide +kernel
  rcases observed with ⟨shown, first, second, failed, refused⟩
  have first := eq_ok_of_toOption first
  have second := eq_ok_of_toOption second
  have unvaried : Sample.listing.AgreesButBearer Sample.listing := ⟨rfl, rfl, rfl, fun _ _ => rfl⟩
  have varied : (Sample.departing "secret").AgreesButBearer (Sample.departing "other") := by
    refine ⟨rfl, rfl, rfl, fun name other => ?_⟩
    have absent (secret : String) : (Sample.departing secret).header? name = none := by
      have bearer : Http.lowered "Authorization" = "authorization" := by decide +kernel
      unfold Http.Request.header? Sample.departing
      dsimp only
      rw [List.find?_cons_of_neg (by rw [bearer, beq_iff_eq]; exact Ne.symm other), List.find?_nil]
      rfl
    rw [absent, absent]
  have listing : ¬Sample.listing.IsFor "POST" ["apps"] := fun asks => by
    have method := asks.method_eq
    contradiction
  have departing (path : List String) : ¬(Sample.departing "secret").IsFor "POST" path := fun asks => by
    have method := asks.method_eq
    contradiction
  have lists := (Api.secrets_do_not_reach_responses Sample.keyed worlds
    (rfl : Mishaps.redacted Mishaps.nothing = Mishaps.redacted Mishaps.nothing) unvaried).1 listing
  have departs := (Api.secrets_do_not_reach_responses Sample.keyed worlds faults varied).2
    (departing _) (departing _) (departing _) fun _ => first.trans second.symm
  exact ⟨worlds, faults, unvaried, listing, lists, shown, varied, departing, first, second, departs, failed, refused⟩

end SingleSignOn

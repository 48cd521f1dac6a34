import SingleSignOn.Api.Management
import SingleSignOn.Api.Public
import SingleSignOn.Proofs.Service.Waiting

namespace SingleSignOn

/-!
# No store call escapes the limit

A handler reads the parts of a request without any store call, and then calls
the service, so it heeds the limit as the service does.  The readiness probe
tells a call that took too long from one that failed, but its response does
not.
-/

/-- A handler that makes a response of the answer of the service. -/
theorem TryHeeds.told {α : Type} {limit : Nat} {operation : Operation α}
    (heeds : TryHeeds limit (fun _ => True) operation) (render : α -> Http.Response) :
    TryHeeds limit (fun _ => True)
      (operation.handled >>= fun value => (pure (render value) : Http.Handling Http.Response)) :=
  (heeds.adapt Error.response).map render

namespace Http

variable {limit : Nat}

namespace Handling

theorem tryHeeds_jsonBody {α : Type} (limit : Nat) (request : Request) (read : Json.Parsed -> Except Json.Fault α) :
    TryHeeds limit (fun _ => False) (jsonBody request read) := by
  unfold jsonBody
  split
  · split <;> trivial
  · trivial

theorem tryHeeds_number (limit : Nat) (parameters : List (List Char)) (position : Nat) :
    TryHeeds limit (fun _ => False) (number parameters position) := by
  unfold number
  split <;> trivial

/-- A handler ends with a response, early or late. -/
theorem heeds_finish {handling : Handling Response} (heeds : TryHeeds limit (fun _ => True) handling) :
    handling.finish.Heeds limit Eq := by
  refine Program.Heeds.bind heeds (fun result => ?_) fun given prompt told => ?_
  · cases result with
    | ok response => trivial
    | error response => trivial
  · rcases told with ⟨rfl, _⟩
    cases given with
    | ok response => exact ⟨response, response, rfl, rfl, rfl⟩
    | error response => exact ⟨response, response, rfl, rfl, rfl⟩

end Handling

theorem heeds_answer {Endpoint : Type} {run : Endpoint -> List (List Char) -> Request -> Program Response}
    (each : forall endpoint parameters request, (run endpoint parameters request).Heeds limit Eq)
    (routes : List (Route Endpoint)) (request : Request) : (answer routes run request).Heeds limit Eq := by
  unfold answer
  split
  · trivial
  split
  · trivial
  · trivial
  · refine (each _ _ request).bind (fun _ => trivial) fun given prompt same => ?_
    cases same
    exact ⟨_, _, rfl, rfl, rfl⟩

end Http

namespace Api

open Http

variable (service : Service)

/-- A handler that makes a response of the answer to a call. -/
theorem tryHeeds_told (call : ServiceCall) (render : call.Reply -> Http.Response) :
    TryHeeds service.auth.storeTimeout (fun _ => True)
      ((service.operation call).handled >>= fun value => (pure (render value) : Handling Response)) :=
  (service.heeds_operation call).told render

/-- Who the caller is, is found out by a call to the service. -/
theorem tryHeeds_caller (request : Http.Request) :
    TryHeeds service.auth.storeTimeout (fun _ => False) (caller service request) := by
  unfold caller
  split
  · exact (service.heeds_authenticate _).adapt Error.response
  · trivial

theorem PublicEndpoint.heeds_handle (endpoint : PublicEndpoint) (parameters : List (List Char))
    (request : Http.Request) :
    TryHeeds service.auth.storeTimeout (fun _ => True) (endpoint.handle service parameters request) := by
  cases endpoint with
  | register =>
    refine (Handling.tryHeeds_jsonBody _ request _).bind fun registration => ?_
    exact tryHeeds_told service (.register registration.email registration.password registration.profile) _
  | ownAccount =>
    refine (tryHeeds_caller service request).bind fun claims => ?_
    exact tryHeeds_told service (.userInfo claims.userId) _
  | changeOwnAccount =>
    refine (tryHeeds_caller service request).bind fun claims => ?_
    refine (Handling.tryHeeds_jsonBody _ request _).bind fun change => ?_
    exact tryHeeds_told service (.updateUser claims.userId change) _
  | deleteOwnAccount =>
    refine (tryHeeds_caller service request).bind fun claims => ?_
    exact tryHeeds_told service (.deleteUser claims.userId) _
  | login =>
    refine (Handling.tryHeeds_jsonBody _ request _).bind fun login => ?_
    dsimp only
    split
    · trivial
    · exact tryHeeds_told service (.login login.email login.password login.appId) _
  | logout =>
    refine (Handling.tryHeeds_jsonBody _ request _).bind fun token => ?_
    exact tryHeeds_told service (.logout token) _
  | refresh =>
    refine (Handling.tryHeeds_jsonBody _ request _).bind fun token => ?_
    exact tryHeeds_told service (.refresh token) _
  | validateToken =>
    refine (Handling.tryHeeds_jsonBody _ request _).bind fun token => ?_
    exact tryHeeds_told service (.validateToken token) _
  | adminStatus =>
    refine (Handling.tryHeeds_number _ parameters 0).bind fun appId => ?_
    refine (Handling.tryHeeds_number _ parameters 1).bind fun userId => ?_
    exact tryHeeds_told service (.isAdmin userId appId) _

/-- The probe ends with the same response whether its call was given up or has timed out. -/
theorem ManagementEndpoint.heeds_ready (parameters : List (List Char)) (request : Http.Request) :
    (ManagementEndpoint.ready.handle service parameters request).finish.Heeds service.auth.storeTimeout Eq := by
  refine ⟨rfl, ⟨_, _, rfl, rfl, rfl⟩, fun reply => ?_⟩
  rcases reply with _ | _ | _ <;> trivial

theorem ManagementEndpoint.heeds_handle (endpoint : ManagementEndpoint) (parameters : List (List Char))
    (request : Http.Request) :
    (endpoint.handle service parameters request).finish.Heeds service.auth.storeTimeout Eq := by
  have number (position : Nat) := Handling.tryHeeds_number service.auth.storeTimeout parameters position
  cases endpoint with
  | alive => trivial
  | ready => exact ManagementEndpoint.heeds_ready service parameters request
  | listApps => exact Handling.heeds_finish (tryHeeds_told service .listApps _)
  | createApp =>
    refine Handling.heeds_finish ((Handling.tryHeeds_jsonBody _ request _).bind fun registration => ?_)
    exact tryHeeds_told service (.createApp registration.name registration.link registration.secret) _
  | getApp =>
    refine Handling.heeds_finish ((number 0).bind fun appId => ?_)
    exact tryHeeds_told service (.getApp appId) _
  | updateApp =>
    refine Handling.heeds_finish ((number 0).bind fun appId => ?_)
    refine (Handling.tryHeeds_jsonBody _ request _).bind fun update => ?_
    exact tryHeeds_told service (.updateApp appId update.name update.link) _
  | deleteApp =>
    refine Handling.heeds_finish ((number 0).bind fun appId => ?_)
    exact tryHeeds_told service (.deleteApp appId) _
  | setStatus =>
    refine Handling.heeds_finish ((number 0).bind fun appId => ?_)
    refine (Handling.tryHeeds_jsonBody _ request _).bind fun enabled => ?_
    exact tryHeeds_told service (.setEnabled appId enabled) _
  | listAppUsers =>
    refine Handling.heeds_finish ((number 0).bind fun appId => ?_)
    exact tryHeeds_told service (.listAppUsers appId) _
  | grantAdmin =>
    refine Handling.heeds_finish ((number 0).bind fun appId => ?_)
    refine (number 1).bind fun userId => ?_
    exact tryHeeds_told service (.grantAdmin userId appId) _
  | revokeAdmin =>
    refine Handling.heeds_finish ((number 0).bind fun appId => ?_)
    refine (number 1).bind fun userId => ?_
    exact tryHeeds_told service (.revokeAdmin userId appId) _
  | listUsers => exact Handling.heeds_finish (tryHeeds_told service .listUsers _)

theorem heeds_answerPublic (request : Http.Request) :
    (answerPublic service request).Heeds service.auth.storeTimeout Eq :=
  Http.heeds_answer (fun endpoint parameters request =>
    Handling.heeds_finish (endpoint.heeds_handle service parameters request)) _ _

theorem heeds_answerManagement (request : Http.Request) :
    (answerManagement service request).Heeds service.auth.storeTimeout Eq :=
  Http.heeds_answer (fun endpoint parameters request => endpoint.heeds_handle service parameters request) _ _

/-- No store call escapes the limit.  Every call to the service, sweeps among
them, and every request, readiness probes among them, comes to an end whatever
becomes of its store calls.  It makes no difference to the result, the stores
and the calls whether a call that takes too long, or for ever, is waited for or
fails at once. -/
theorem no_call_escapes_limit (service : Service) (rate : Nat) (mishaps : Mishaps) (chosen : Nat -> Bool)
    (passage : Passage) :
    (forall call : ServiceCall,
        (service.program call).EndsInTime rate service.auth.storeTimeout mishaps chosen passage) ∧
      (forall request : Http.Request,
        (answerPublic service request).EndsInTime rate service.auth.storeTimeout mishaps chosen passage) ∧
      forall request : Http.Request,
        (answerManagement service request).EndsInTime rate service.auth.storeTimeout mishaps chosen passage := by
  refine ⟨fun call => ?_, fun request => ?_, fun request => ?_⟩
  · exact (service.heeds_operation call).endsInTime (fun _ _ told => told.1) rate mishaps chosen passage
  · exact (heeds_answerPublic service request).endsInTime (fun _ _ same => same) rate mishaps chosen passage
  · exact (heeds_answerManagement service request).endsInTime (fun _ _ same => same) rate mishaps chosen passage

end Api

end SingleSignOn

import SingleSignOn.Api.Management
import SingleSignOn.Api.Public
import SingleSignOn.Service.Call

namespace SingleSignOn

/-!
# Endpoints as calls to the service

A handler reads the parts of a request, calls the service, and makes a response
of the answer.  Where it calls the service once, the whole endpoint is that
call and a way to tell its answer.  The admin status of a user for an app is
such a case on both interfaces.  The paths name the app before the user, while
the service takes the user first.
-/

/-- The response to an answer of the service: a failure is told by its status and message. -/
def Http.Response.ofAnswer {α : Type} (render : α -> Http.Response) : Except Error α -> Http.Response
  | .ok value => render value
  | .error error => error.response

namespace Http.Handling

variable {α : Type}

/-- A handler ends as its second part does, or early. -/
theorem finish_bind (handling : Handling α) (continuation : α -> Handling Response) :
    (handling >>= continuation).finish = handling.run.bind fun
      | .ok value => (continuation value).finish
      | .error response => .done response := by
  refine (Program.bind_assoc handling.run _ _).trans (congrArg handling.run.bind (funext fun result => ?_))
  cases result with
  | ok value => rfl
  | error response => rfl

/-- A handler that begins with a call to the service. -/
theorem finish_bind_handled (operation : Operation α) (continuation : α -> Handling Response) :
    (operation.handled >>= continuation).finish =
      operation.run.bind fun
        | .ok value => (continuation value).finish
        | .error error => .done error.response := by
  rw [finish_bind]
  refine (Program.bind_assoc operation.run _ _).trans (congrArg operation.run.bind (funext fun result => ?_))
  cases result with
  | ok value => rfl
  | error error => rfl

/-- A handler that is one call to the service and tells its answer. -/
theorem finish_handled (operation : Operation α) (render : α -> Response) :
    (operation.handled >>= fun value => pure (render value)).finish =
      operation.run.bind fun answer => .done (Response.ofAnswer render answer) := by
  rw [finish_bind_handled]
  refine congrArg operation.run.bind (funext fun answer => ?_)
  cases answer with
  | ok value => rfl
  | error error => rfl

end Http.Handling

/-- A request asks for a login with the fields of its body. -/
structure Http.Request.AsksLogin (request : Http.Request) (login : Api.Login) : Prop where
  method_eq : request.method = "POST"
  path : Http.Target.segments? request.target = some ["v1".toList, "sessions".toList]
  saysJson : Http.Handling.saysJson request = true
  read : (Json.parse request.body).read Api.Login.read = .ok login

namespace Api

open Http

/-- A request that is routed to an endpoint and does not ask for the head
alone has the answer of the endpoint. -/
theorem answer_of_dispatch {Endpoint : Type} {routes : List (Route Endpoint)}
    (run : Endpoint -> List (List Char) -> Http.Request -> Program Response) {request : Http.Request}
    {segments parameters : List (List Char)} {endpoint : Endpoint}
    (path : Target.segments? request.target = some segments)
    (routed : Route.dispatch request.method segments routes = .found endpoint parameters)
    (whole : request.method ≠ "HEAD") : Http.answer routes run request = run endpoint parameters request := by
  simp only [Http.answer, path, routed, whole, if_false, bind_pure]

/-- `POST /v1/sessions` logs in, unless the body leaves something out. -/
theorem answerPublic_login (service : Service) {request : Http.Request} {login : Login} (asks : request.AsksLogin login) :
    answerPublic service request =
      match missingFromLogin? login with
      | some message => .done (Error.badRequest message).response
      | none => (service.program (.login login.email login.password login.appId)).bind fun answer =>
          .done (Response.ofAnswer (fun session => .ofJson 200 (sessionView session)) answer) := by
  have routed : Route.dispatch request.method ["v1".toList, "sessions".toList] publicRoutes = .found .login [] := by
    rw [asks.method_eq]
    rfl
  have body : Handling.jsonBody request Login.read = pure login := by
    rw [Handling.jsonBody, if_pos asks.saysJson, asks.read]
  refine (answer_of_dispatch _ asks.path routed (by rw [asks.method_eq]; decide)).trans ?_
  simp only [PublicEndpoint.handle, body, pure_bind]
  cases missingFromLogin? login with
  | some message => rfl
  | none => exact Handling.finish_handled (service.login login.email login.password login.appId) _

end Api

end SingleSignOn

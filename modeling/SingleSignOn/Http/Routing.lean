import SingleSignOn.Http.Message
import SingleSignOn.Http.Target

namespace SingleSignOn.Http

/-!
# Routing

A route table maps paths and methods to endpoints.  An endpoint is whatever
the owner of the table chooses to name its operations by.  A path that no
route has is not found; a path that some route has, with a method that it
does not know, is a method that is not allowed.
-/

/-- A segment of a route. -/
inductive Segment where
  /-- Matches itself, letter by letter. -/
  | literal (text : String)
  /-- Matches any segment, and hands it on. -/
  | parameter
  deriving DecidableEq, Repr

/-- A path pattern with the endpoints of its methods. -/
structure Route (Endpoint : Type) where
  pattern : List Segment
  methods : List (String × Endpoint)

/-- What a route table says about a request. -/
inductive Dispatch (Endpoint : Type) where
  | notFound
  | methodNotAllowed
  /-- The endpoint, and the segments that stand for parameters. -/
  | found (endpoint : Endpoint) (parameters : List (List Char))

/-- The parameters of a path that fits a pattern.  A parameter at the end of
a path is not empty. -/
def matchSegments : List Segment -> List (List Char) -> Option (List (List Char))
  | [], [] => some []
  | .literal text :: pattern, segment :: segments =>
    if segment = text.toList then matchSegments pattern segments else none
  | [.parameter], [segment] => if segment.isEmpty then none else some [segment]
  | .parameter :: pattern, segment :: segments => (matchSegments pattern segments).map (segment :: ·)
  | _, _ => none

namespace Route

/-- The endpoint for a method.  The head of what can be got can be got too. -/
def endpoint? {Endpoint : Type} (route : Route Endpoint) (method : String) : Option Endpoint :=
  match route.methods.lookup method with
  | some endpoint => some endpoint
  | none => if method = "HEAD" then route.methods.lookup "GET" else none

/-- What the first route that fits a path says. -/
def dispatch {Endpoint : Type} (method : String) (segments : List (List Char)) :
    List (Route Endpoint) -> Dispatch Endpoint
  | [] => .notFound
  | route :: routes =>
    match matchSegments route.pattern segments with
    | none => dispatch method segments routes
    | some parameters =>
      match route.endpoint? method with
      | some endpoint => .found endpoint parameters
      | none => .methodNotAllowed

end Route

/-- Answers a request by a route table and a way to run its endpoints. -/
def answer {Endpoint : Type} {m : Type -> Type} [Monad m] (routes : List (Route Endpoint))
    (run : Endpoint -> List (List Char) -> Request -> m Response) (request : Request) : m Response :=
  match Target.segments? request.target with
  | none => pure (.ofStatus 404)
  | some segments =>
    match Route.dispatch request.method segments routes with
    | .notFound => pure (.ofStatus 404)
    | .methodNotAllowed => pure (.ofStatus 405)
    | .found endpoint parameters => do
      let response ← run endpoint parameters request
      return if request.method = "HEAD" then response.headOnly else response

end SingleSignOn.Http

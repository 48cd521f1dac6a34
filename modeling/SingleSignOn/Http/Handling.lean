import SingleSignOn.Http.MediaType
import SingleSignOn.Http.Message
import SingleSignOn.Http.Target
import SingleSignOn.Json.Shape
import SingleSignOn.Store.Program

namespace SingleSignOn.Http

/-!
# Handling a request

A handler is a program that ends early with a response as soon as some part
of the request is not good.  The parts are taken out one after another, so
the first that is not good decides the answer and the later ones are not
looked at.
-/

/-- A program that either goes on with a result or ends with a response. -/
abbrev Handling (α : Type) := ExceptT Response Program α

namespace Handling

/-- Ends with a response. -/
def reject {α : Type} (response : Response) : Handling α :=
  throw response

/-- The response of a handler, however it ended. -/
def finish (handling : Handling Response) : Program Response := do
  match ← handling.run with
  | .ok response => return response
  | .error response => return response

/-- A parameter of the path that is a number. -/
def number (parameters : List (List Char)) (position : Nat) : Handling Int :=
  match (parameters[position]?).bind Target.number? with
  | some value => pure value
  | none => reject (.ofText 400 "Invalid number in path")

/-- Whether the content type of a request says that its body is JSON. -/
def saysJson (request : Request) : Bool :=
  match request.header? "content-type" with
  | some value => value.all (fun byte => 32 ≤ byte.toNat && byte.toNat < 127) &&
      MediaType.isJson (String.ofList (value.map fun byte => Char.ofNat byte.toNat))
  | none => false

/-- The body of a request, read as a JSON record.  Text that is no JSON and
JSON of another shape are told apart. -/
def jsonBody {α : Type} (request : Request) (read : Json.Parsed -> Except Json.Fault α) : Handling α :=
  if saysJson request then
    match (Json.parse request.body).read read with
    | .ok value => pure value
    | .error .malformed => reject (.ofText 400 "Body is not JSON")
    | .error .mismatched => reject (.ofText 422 "Body is JSON of another shape")
  else reject (.ofText 415 "Content type is not JSON")

end Handling

end SingleSignOn.Http

import SingleSignOn.Json.Value

namespace SingleSignOn.Http

/-!
# Requests and responses

What the service sees of HTTP: a method, a target, header fields and a body
on one side, a status, header fields and a body on the other.  Connections,
framing and transfer are somebody else's.
-/

/-- A header field: its name in any case, and the bytes of its value. -/
structure HeaderField where
  name : String
  value : Bytes
  deriving DecidableEq, Repr

/-- A request. -/
structure Request where
  method : String
  /-- Path, query and fragment as they were sent. -/
  target : String
  headers : List HeaderField
  body : Bytes
  deriving DecidableEq, Repr

/-- The body of a response. -/
inductive Body where
  | empty
  /-- A short text for people. -/
  | text (message : String)
  | json (value : Json.Value)
  deriving Inhabited

/-- A response. -/
structure Response where
  status : Nat
  headers : List HeaderField
  body : Body

/-- A lower-case text; only ASCII letters have case in names of header fields. -/
def lowered (text : String) : String :=
  text.map Char.toLower

namespace Request

/-- The value of the first header field of a name, in whatever case it is written. -/
def header? (request : Request) (name : String) : Option Bytes :=
  (request.headers.find? fun field => lowered field.name == lowered name).map HeaderField.value

end Request

namespace Response

/-- A response that consists of its status. -/
def ofStatus (status : Nat) : Response := ⟨status, [], .empty⟩

/-- A response with a JSON body. -/
def ofJson (status : Nat) (value : Json.Value) : Response := ⟨status, [], .json value⟩

/-- A response with a text for people. -/
def ofText (status : Nat) (message : String) : Response := ⟨status, [], .text message⟩

/-- The response with one more header field. -/
def withHeader (response : Response) (name : String) (value : Bytes) : Response :=
  { response with headers := ⟨name, value⟩ :: response.headers }

/-- The response without its body, as it answers a request for the head alone. -/
def headOnly (response : Response) : Response :=
  { response with body := .empty }

end Response

end SingleSignOn.Http

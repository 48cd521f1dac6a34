import SingleSignOn.Http.Message
import SingleSignOn.Store.Program

namespace SingleSignOn.Http

/-!
# Request identifiers

Every request has an identifier, and every response repeats it.  A request
that comes without one is given a random one.
-/

/-- The header field of request identifiers. -/
def requestIdHeader : String := "x-request-id"

/-- A random identifier: sixteen bytes in groups, with the version and the
variant of random identifiers in their places. -/
def randomIdentifier (random : Bytes) : String :=
  let marked := random.mapIdx fun position byte =>
    if position = 6 then (byte &&& 0x0f) ||| 0x40
    else if position = 8 then (byte &&& 0x3f) ||| 0x80
    else byte
  let digits := (Bytes.toHex marked).toList
  let group (start length : Nat) := (digits.drop start).take length
  String.ofList (group 0 8 ++ '-' :: group 8 4 ++ '-' :: group 12 4 ++ '-' :: group 16 4 ++ '-' :: group 20 12)

/-- Answers a request under its identifier, or under a random one. -/
def identified (answer : Request -> Program Response) (request : Request) : Program Response := do
  match request.header? requestIdHeader with
  | some given =>
    let response ← answer request
    return response.withHeader requestIdHeader given
  | none =>
    let random ← Program.fresh 16
    let response ← answer request
    return response.withHeader requestIdHeader (Bytes.ofString (randomIdentifier random))

end SingleSignOn.Http

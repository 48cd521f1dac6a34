import SingleSignOn.Service.History

namespace SingleSignOn

/-!
# Requests at any time

A request is a call to the service together with what it meets: the time of
day, which may have been set back since the request before it, and the
mishaps of its store calls.  Requests are served one after another.
-/

/-- A call to the service and what it meets. -/
structure Request where
  call : ServiceCall
  /-- What the clock shows. -/
  now : Instant
  mishaps : Mishaps

namespace Service

/-- The answer to a request, and the world after it. -/
def respond (service : Service) (world : World) (request : Request) : Answered × World :=
  let (answer, passage) :=
    (service.program request.call).runUnder request.mishaps ⟨{ world with now := request.now }, []⟩
  (⟨request.call, answer, request.now⟩, passage.world)

theorem respond_of_runUnder (service : Service) {world : World} {call : ServiceCall} {now : Instant}
    {mishaps : Mishaps} {answer : Except Error call.Reply} {later : Passage}
    (ran : (service.program call).runUnder mishaps ⟨{ world with now := now }, []⟩ = (answer, later)) :
    service.respond world ⟨call, now, mishaps⟩ = (⟨call, answer, now⟩, later.world) := by
  unfold respond
  rw [ran]

/-- The answers to requests, the earliest first, and the world after them. -/
def serve (service : Service) (world : World) : List Request -> List Answered × World
  | [] => ([], world)
  | request :: later =>
    let (answered, after) := service.respond world request
    let (others, final) := service.serve after later
    (answered :: others, final)

end Service

end SingleSignOn

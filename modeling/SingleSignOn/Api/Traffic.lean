import SingleSignOn.Api.Management
import SingleSignOn.Api.Public
import SingleSignOn.Http.RequestId
import SingleSignOn.Service.Sweeper
import SingleSignOn.Store.Timetable

namespace SingleSignOn.Api

/-!
# Traffic

What a server of both interfaces sees: requests that are answered one after
another, each along a timetable of its own, and the time between them, in
which the sweeper may be at work.  A sweep is decided by one reading of the
clock, so the time that it takes counts as time between requests.
-/

/-- What can happen to a server. -/
inductive Occasion where
  | publicRequest (request : Http.Request) (timetable : Timetable)
  | managementRequest (request : Http.Request) (timetable : Timetable)
  | sweep
  /-- So many nanoseconds pass. -/
  | elapsed (nanoseconds : Nat)

namespace Occasion

/-- Whether an occasion is a sweep. -/
def isSweep : Occasion -> Bool
  | .sweep => true
  | _ => false

/-- Answers a request along a timetable. -/
def serve (answer : Http.Request -> Program Http.Response) (request : Http.Request) (timetable : Timetable)
    (passage : Passage) : List Http.Response × Passage :=
  let (response, journey) := (Http.identified answer request).runAlong timetable passage.depart
  ([response], journey.arrive timetable)

/-- The response that is sent on an occasion, if any, and the passage after it. -/
def take (service : Service) (passage : Passage) : Occasion -> List Http.Response × Passage
  | .publicRequest request timetable => serve (answerPublic service) request timetable passage
  | .managementRequest request timetable => serve (answerManagement service) request timetable passage
  | .sweep => ([], (service.sweep.run.runUnder Mishaps.nothing passage).2)
  | .elapsed nanoseconds => ([], passage.atTime ⟨passage.world.now.nanoseconds + nanoseconds⟩)

end Occasion

/-- The responses to the requests among occasions, the earliest first, and the passage after them. -/
def traffic (service : Service) (passage : Passage) : List Occasion -> List Http.Response × Passage
  | [] => ([], passage)
  | occasion :: later =>
    let (first, after) := occasion.take service passage
    let (others, final) := traffic service after later
    (first ++ others, final)

end SingleSignOn.Api

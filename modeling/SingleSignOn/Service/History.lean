import SingleSignOn.Service.Call
import SingleSignOn.Store.Mishap

namespace SingleSignOn

/-!
# Histories of a deployment

Calls to the service come one after another, and time passes between them.
A history tells what was asked, when, and what went wrong with the store
calls that were made for it; the record of a history adds the answers.
-/

/-- Something that happens to a deployment. -/
inductive Happening where
  /-- The service is called, and the store calls made for it meet these mishaps. -/
  | asked (call : ServiceCall) (mishaps : Mishaps)
  /-- So many nanoseconds pass. -/
  | elapsed (nanoseconds : Nat)

/-- A call with its answer, and the instant of the call. -/
structure Answered where
  call : ServiceCall
  answer : Except Error call.Reply
  instant : Instant

namespace Happening

/-- What a happening adds to the record, and the world after it. -/
def take (service : Service) (world : World) : Happening -> List Answered × World
  | .asked call mishaps =>
    let (answer, passage) := (service.program call).runUnder mishaps ⟨world, []⟩
    ([⟨call, answer, world.now⟩], passage.world)
  | .elapsed nanoseconds => ([], { world with now := ⟨world.now.nanoseconds + nanoseconds⟩ })

/-- Whether nothing goes wrong with any store call. -/
def IsSmooth : Happening -> Prop
  | .asked _ mishaps => mishaps = Mishaps.nothing
  | .elapsed _ => True

end Happening

/-- The record of a history, the earliest call first, and the world after it. -/
def Service.record (service : Service) (world : World) : List Happening -> List Answered × World
  | [] => ([], world)
  | happening :: later =>
    let (first, after) := happening.take service world
    let (others, final) := service.record after later
    (first ++ others, final)

end SingleSignOn

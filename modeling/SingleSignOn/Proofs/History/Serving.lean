import SingleSignOn.Proofs.History.Credentials
import SingleSignOn.Proofs.Service.References

namespace SingleSignOn

/-!
# Requests that nothing goes wrong with

Requests are served one after another, at whatever times the clock shows, and
no store call fails.  What holds before any request and is kept by the outcome
of each call then holds of the answers and of the world after them.  In
particular the ledger of the answers tells the users, the apps and the grants
that are stored.
-/

/-- Whether nothing goes wrong with any store call of a request. -/
def Request.IsSmooth (request : Request) : Prop :=
  request.mishaps = Mishaps.nothing

namespace Service

variable {service : Service}

/-- A smooth request is answered with the outcome of its call. -/
theorem respond_of_outcome {world later : World} {call : ServiceCall} {now : Instant}
    {answer : Except Error call.Reply}
    (done : Operation.outcome (service.operation call) { world with now := now } = (answer, later)) :
    service.respond world ⟨call, now, Mishaps.nothing⟩ = (⟨call, answer, now⟩, later) := by
  rcases (service.program call).runUnder_nothing ⟨{ world with now := now }, []⟩ with ⟨answered, left⟩
  have ran : (service.program call).run { world with now := now } = (answer, later) := done
  rw [ran] at answered left
  refine (service.respond_of_runUnder (Prod.ext answered rfl)).trans ?_
  rw [left]

/-- What each outcome keeps, a run of smooth requests keeps. -/
theorem serve_induction {motive : List Answered -> World -> Prop}
    (step : forall (past : List Answered) (world : World) (call : ServiceCall) (now : Instant)
      (answer : Except Error call.Reply) (later : World), motive past world ->
      Operation.outcome (service.operation call) { world with now := now } = (answer, later) ->
      motive (past ++ [⟨call, answer, now⟩]) later)
    {requests : List Request} (smooth : ∀ request ∈ requests, request.IsSmooth) {past : List Answered}
    {world : World} (start : motive past world) :
    motive (past ++ (service.serve world requests).1) (service.serve world requests).2 := by
  induction requests generalizing past world with
  | nil =>
    rw [serve, List.append_nil]
    exact start
  | cons request later hypothesis =>
    rcases request with ⟨call, now, mishaps⟩
    obtain rfl : mishaps = Mishaps.nothing := smooth _ List.mem_cons_self
    rcases done : Operation.outcome (service.operation call) { world with now := now } with ⟨answer, between⟩
    have others := hypothesis (fun request member => smooth request (List.mem_cons_of_mem _ member))
      (step past world call now answer between start done)
    rw [List.append_assoc] at others
    rw [serve, respond_of_outcome done]
    exact others

/-- What every store call of every call keeps of the stores, a run keeps. -/
theorem outcome_preserves (holds : Stores -> Prop) {call : ServiceCall} {world later : World}
    {answer : Except Error call.Reply}
    (kept : forall stores now request, call.Makes request -> holds stores ->
      holds (Stores.answer stores now request).2)
    (start : holds world.stores)
    (done : Operation.outcome (service.operation call) world = (answer, later)) : holds later.stores := by
  have ran : (service.program call).run world = (answer, later) := done
  have after := Program.run_preserves holds (call.callsOnly_makes service) kept world start
  rwa [ran] at after

theorem isSound_outcome {call : ServiceCall} {world later : World} {answer : Except Error call.Reply}
    (sound : world.stores.credentials.IsSound)
    (done : Operation.outcome (service.operation call) world = (answer, later)) :
    later.stores.credentials.IsSound :=
  outcome_preserves (·.credentials.IsSound) (fun stores now request _ => stores.isSound_answer now request)
    sound done

theorem isCoherent_outcome {call : ServiceCall} {world later : World} {answer : Except Error call.Reply}
    (coherent : world.stores.IsCoherent)
    (done : Operation.outcome (service.operation call) world = (answer, later)) :
    later.stores.IsCoherent := by
  have answered := respond_of_outcome done
  have kept : (service.respond world ⟨call, world.now, Mishaps.nothing⟩).2.stores.IsCoherent :=
    isCoherent_respond coherent _
  rwa [answered] at kept

/-- Logins and refreshes leave the users, apps and grants as they are. -/
theorem credentials_of_opensSession {call : ServiceCall} {world later : World}
    {answer : Except Error call.Reply} (opens : call.opensSession = true)
    (done : Operation.outcome (service.operation call) world = (answer, later)) :
    later.stores.credentials = world.stores.credentials := by
  refine outcome_preserves (·.credentials = world.stores.credentials)
    (fun stores now request makes same => ?_) rfl done
  cases makes <;> first | exact same | cases opens

/-- No call records a grant that is not in force. -/
theorem inForce_outcome {call : ServiceCall} {world later : World} {answer : Except Error call.Reply}
    (inForce : forall (grant : Grant) (isAdmin : Bool),
      world.stores.credentials.grants[grant]? = some isAdmin -> isAdmin = true)
    (done : Operation.outcome (service.operation call) world = (answer, later)) (grant : Grant)
    (isAdmin : Bool) (found : later.stores.credentials.grants[grant]? = some isAdmin) : isAdmin = true := by
  refine outcome_preserves (fun stores => forall (grant : Grant) (isAdmin : Bool),
    stores.credentials.grants[grant]? = some isAdmin -> isAdmin = true)
    (fun stores now request makes kept grant isAdmin found => ?_) inForce done grant isAdmin found
  cases request with
  | credentials request =>
    rcases CredentialStore.getElem?_grants_answer now found with rfl | ⟨before, _⟩
    · cases makes
      rfl
    · exact kept grant isAdmin before
  | tokens request => exact kept grant isAdmin found

end Service

namespace Ledger

/-- The answers so far tell what is stored of users, apps and grants. -/
structure Follows (history : List Answered) (world : World) : Prop where
  sound : world.stores.credentials.IsSound
  coherent : world.stores.IsCoherent
  mirrors : (Ledger.of history).Mirrors world.stores.credentials
  /-- A record of a grant says that it is in force. -/
  inForce : forall (grant : Grant) (isAdmin : Bool),
    world.stores.credentials.grants[grant]? = some isAdmin -> isAdmin = true

variable {service : Service} {ledger : Ledger} {world later : World}

/-- Every call keeps the ledger in step with the users, apps and grants. -/
theorem Mirrors.note_of_outcome (mirrors : ledger.Mirrors world.stores.credentials)
    (sound : world.stores.credentials.IsSound) {call : ServiceCall} {answer : Except Error call.Reply}
    (done : Operation.outcome (service.operation call) world = (answer, later)) (instant : Instant) :
    (ledger.note ⟨call, answer, instant⟩).Mirrors later.stores.credentials := by
  cases opens : call.opensSession with
  | false => exact mirrors.note sound opens done instant
  | true =>
    rw [Service.credentials_of_opensSession opens done]
    cases call with
    | login email password appId => exact ⟨mirrors.users, mirrors.apps, mirrors.admins⟩
    | refresh token => exact ⟨mirrors.users, mirrors.apps, mirrors.admins⟩
    | _ => cases opens

/-- The clock may show anything. -/
theorem Follows.at {history : List Answered} (follows : Follows history world) (now : Instant) :
    Follows history { world with now := now } :=
  ⟨follows.sound, follows.coherent, follows.mirrors, follows.inForce⟩

theorem Follows.note {past : List Answered} (follows : Follows past world) {call : ServiceCall}
    {answer : Except Error call.Reply}
    (done : Operation.outcome (service.operation call) world = (answer, later)) (now : Instant) :
    Follows (past ++ [⟨call, answer, now⟩]) later := by
  refine ⟨Service.isSound_outcome follows.sound done, Service.isCoherent_outcome follows.coherent done, ?_, ?_⟩
  · rw [of_append_singleton]
    exact follows.mirrors.note_of_outcome follows.sound done now
  · exact Service.inForce_outcome follows.inForce done

end Ledger

end SingleSignOn

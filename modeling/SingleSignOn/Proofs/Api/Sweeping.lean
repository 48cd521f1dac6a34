import SingleSignOn.Api.Traffic
import SingleSignOn.Proofs.History.RefreshLaw
import SingleSignOn.Proofs.Service.Sweeping

namespace SingleSignOn

/-!
# Sweeps are invisible

Two servers see the same requests at the same times and draw the same random
bytes, while the sweeper is at work at one of them and idle at the other, or
at work at other times.  Between any two occasions their stores are alike: they
differ in dead refresh tokens.  A sweep at one of them keeps it so, and no
handler tells dead tokens from absent ones, so all responses are the same.
-/

/-! ## Handlers -/

section

variable {timetable : Timetable} {start : World} {log : List StoreCall} {α : Type}

theorem Operation.oblivious_handled {operation : Operation α} (oblivious : Oblivious timetable start log operation) :
    Oblivious timetable start log operation.handled :=
  oblivious.adapt Error.response

/-- A handler that makes a response of an answer. -/
theorem Operation.oblivious_told {operation : Operation α} {render : α -> Http.Response}
    (oblivious : Oblivious timetable start log operation) :
    Oblivious timetable start log
      (operation.handled >>= fun value => (pure (render value) : Http.Handling Http.Response)) :=
  (oblivious_handled oblivious).bind fun _ => oblivious_pure _

namespace Http.Handling

theorem oblivious_jsonBody (request : Request) (read : Json.Parsed -> Except Json.Fault α) :
    Oblivious timetable start log (jsonBody request read) := by
  unfold jsonBody
  split
  · split
    · exact oblivious_pure _
    · exact oblivious_throw _
    · exact oblivious_throw _
  · exact oblivious_throw _

theorem oblivious_number (parameters : List (List Char)) (position : Nat) :
    Oblivious timetable start log (number parameters position) := by
  unfold number
  split
  · exact oblivious_pure _
  · exact oblivious_throw _

end Http.Handling

namespace Api

open Http

variable {service : Service}

theorem oblivious_caller (request : Http.Request) : Oblivious timetable start log (caller service request) := by
  unfold caller
  split
  · next token _ => exact Operation.oblivious_handled (Service.oblivious_of_leavesTokens (.authenticate token) rfl)
  · exact oblivious_throw _

/-- A handler that makes a response of the answer to a call about users, apps and grants alone. -/
theorem oblivious_told_of_leavesTokens (call : ServiceCall) (leaves : call.leavesTokens = true)
    {render : call.Reply -> Http.Response} :
    Oblivious timetable start log
      ((service.operation call).handled >>= fun value => (pure (render value) : Handling Response)) :=
  Operation.oblivious_told (Service.oblivious_of_leavesTokens call leaves)

/-- No endpoint of the public interface notices dead tokens.  A logout is told
whether there was a token, and does not pass it on. -/
theorem PublicEndpoint.oblivious_handle (fresh : IsFresh start log) (endpoint : PublicEndpoint)
    (parameters : List (List Char)) (request : Http.Request) :
    Oblivious timetable start log (endpoint.handle service parameters request) := by
  cases endpoint with
  | register =>
    refine (Handling.oblivious_jsonBody request _).bind fun registration => ?_
    exact oblivious_told_of_leavesTokens (.register registration.email registration.password registration.profile) rfl
  | ownAccount =>
    refine (oblivious_caller request).bind fun claims => ?_
    exact oblivious_told_of_leavesTokens (.userInfo claims.userId) rfl
  | changeOwnAccount =>
    refine (oblivious_caller request).bind fun claims => ?_
    refine (Handling.oblivious_jsonBody request _).bind fun change => ?_
    exact Operation.oblivious_told (Service.oblivious_updateUser claims.userId change)
  | deleteOwnAccount =>
    refine (oblivious_caller request).bind fun claims => ?_
    exact Operation.oblivious_told (Service.oblivious_deleteUser claims.userId)
  | login =>
    refine (Handling.oblivious_jsonBody request _).bind fun login => ?_
    dsimp only
    split
    · exact oblivious_throw _
    · exact Operation.oblivious_told (Service.oblivious_login fresh login.email login.password login.appId)
  | logout =>
    refine (Handling.oblivious_jsonBody request _).bind fun token => fun _ _ alike => ?_
    exact ((Service.tryInStep_logout alike token).adapt Error.response).bind_oblivious
      fun _ _ _ _ after => ⟨rfl, after, oblivious_pure _⟩
  | refresh =>
    refine (Handling.oblivious_jsonBody request _).bind fun token => ?_
    exact Operation.oblivious_told (Service.oblivious_refresh fresh token)
  | validateToken =>
    refine (Handling.oblivious_jsonBody request _).bind fun token => ?_
    exact oblivious_told_of_leavesTokens (.validateToken token) rfl
  | adminStatus =>
    refine (Handling.oblivious_number parameters 0).bind fun appId => ?_
    refine (Handling.oblivious_number parameters 1).bind fun userId => ?_
    exact oblivious_told_of_leavesTokens (.isAdmin userId appId) rfl

/-- Nor does any endpoint of the management interface. -/
theorem ManagementEndpoint.oblivious_handle (endpoint : ManagementEndpoint) (parameters : List (List Char))
    (request : Http.Request) : Oblivious timetable start log (endpoint.handle service parameters request) := by
  have number (position : Nat) : Oblivious timetable start log (Handling.number parameters position) :=
    Handling.oblivious_number parameters position
  cases endpoint with
  | alive => exact oblivious_pure _
  | ready =>
    have pings : (ExceptT.lift service.checkStore : Handling _).run.CallsOnly StoreCall.IsCredential := by
      refine Program.CallsOnly.bind ⟨trivial, fun reply => ?_⟩ fun _ => trivial
      rcases reply with _ | _ | _ <;> trivial
    exact (oblivious_of_callsOnly pings).bind fun _ => oblivious_pure _
  | listApps => exact oblivious_told_of_leavesTokens .listApps rfl
  | createApp =>
    refine (Handling.oblivious_jsonBody request _).bind fun registration => ?_
    exact oblivious_told_of_leavesTokens (.createApp registration.name registration.link registration.secret) rfl
  | getApp =>
    refine (number 0).bind fun appId => ?_
    exact oblivious_told_of_leavesTokens (.getApp appId) rfl
  | updateApp =>
    refine (number 0).bind fun appId => ?_
    refine (Handling.oblivious_jsonBody request _).bind fun update => ?_
    exact oblivious_told_of_leavesTokens (.updateApp appId update.name update.link) rfl
  | deleteApp =>
    refine (number 0).bind fun appId => ?_
    exact Operation.oblivious_told (Service.oblivious_deleteApp appId)
  | setStatus =>
    refine (number 0).bind fun appId => ?_
    refine (Handling.oblivious_jsonBody request _).bind fun enabled => ?_
    exact oblivious_told_of_leavesTokens (.setEnabled appId enabled) rfl
  | listAppUsers =>
    refine (number 0).bind fun appId => ?_
    exact oblivious_told_of_leavesTokens (.listAppUsers appId) rfl
  | grantAdmin =>
    refine (number 0).bind fun appId => ?_
    refine (number 1).bind fun userId => ?_
    exact oblivious_told_of_leavesTokens (.grantAdmin userId appId) rfl
  | revokeAdmin =>
    refine (number 0).bind fun appId => ?_
    refine (number 1).bind fun userId => ?_
    exact oblivious_told_of_leavesTokens (.revokeAdmin userId appId) rfl
  | listUsers => exact oblivious_told_of_leavesTokens .listUsers rfl

end Api

end

/-! ## Responses -/

section

variable {timetable : Timetable} {start : World} {log : List StoreCall} {α : Type}

/-- A program ends with the same result on any two journeys that are alike. -/
def Program.EndsAlike (timetable : Timetable) (start : World) (log : List StoreCall) (program : Program α) : Prop :=
  forall journey other, Alike.Underway timetable start journey other ->
    InStep timetable log (Equally (Alike.Arrived timetable start)) program program journey other

namespace Program

theorem endsAlike_done (result : α) : (done result).EndsAlike timetable start log :=
  fun _ _ alike _ => ⟨rfl, alike.arrived⟩

/-- What is made of a result. -/
theorem EndsAlike.map {β : Type} {program : Program α} (endsAlike : program.EndsAlike timetable start log)
    (tell : α -> β) : (program.bind fun result => done (tell result)).EndsAlike timetable start log :=
  fun journey other alike => (endsAlike journey other alike).bind
    fun _ _ _ _ ends => fun _ => ⟨congrArg tell ends.1, ends.2⟩

end Program

namespace Http

/-- A handler ends with the same response, early or late. -/
theorem Handling.endsAlike_finish {handling : Handling Response}
    (oblivious : Oblivious timetable start log handling) : handling.finish.EndsAlike timetable start log :=
  fun journey other alike => Program.InStep.bind (oblivious journey other alike) fun result _ answer _ ends =>
    match result, answer, ends with
    | .ok _, .ok _, holds => fun _ => ⟨holds.1, holds.2.arrived⟩
    | .error _, .error _, holds => fun _ => holds

theorem endsAlike_answer {Endpoint : Type} {run : Endpoint -> List (List Char) -> Request -> Program Response}
    (each : forall endpoint parameters request, (run endpoint parameters request).EndsAlike timetable start log)
    (routes : List (Route Endpoint)) (request : Request) :
    (answer routes run request).EndsAlike timetable start log := by
  unfold answer
  split
  · exact Program.endsAlike_done _
  split
  · exact Program.endsAlike_done _
  · exact Program.endsAlike_done _
  · exact (each _ _ request).map _

/-- A response repeats the identifier of its request, given or drawn. -/
theorem endsAlike_identified {answer : Request -> Program Response} {request : Request}
    (endsAlike : (answer request).EndsAlike timetable start log) :
    (identified answer request).EndsAlike timetable start log := by
  unfold identified
  split
  · exact endsAlike.map _
  · intro journey other alike
    have draws : (Program.fresh 16).CallsOnly StoreCall.IsCredential := fun _ => trivial
    have keeping : Alike.Keeping timetable start journey other journey other := ⟨alike, rfl, rfl⟩
    refine (Program.inStep_of_callsOnly draws keeping).bind fun random _ _ _ drawn => ?_
    rcases drawn with ⟨rfl, keeping⟩
    exact endsAlike.map _ _ _ keeping.toUnderway

end Http

namespace Api

variable {service : Service}

theorem endsAlike_answerPublic (fresh : IsFresh start log) (request : Http.Request) :
    (answerPublic service request).EndsAlike timetable start log :=
  Http.endsAlike_answer (fun endpoint parameters request =>
    Http.Handling.endsAlike_finish (endpoint.oblivious_handle fresh parameters request)) _ _

theorem endsAlike_answerManagement (request : Http.Request) :
    (answerManagement service request).EndsAlike timetable start log :=
  Http.endsAlike_answer (fun endpoint parameters request =>
    Http.Handling.endsAlike_finish (endpoint.oblivious_handle parameters request)) _ _

end Api

end

/-! ## Traffic -/

namespace Api

variable {service : Service} {start : World} {log : List StoreCall} {passage other : Passage}

theorem Occasion.suffix_calls_take (occasion : Occasion) (passage : Passage) :
    passage.calls <:+ (occasion.take service passage).2.calls := by
  cases occasion with
  | publicRequest request timetable => exact Program.suffix_calls_runAlong _ passage.depart
  | managementRequest request timetable => exact Program.suffix_calls_runAlong _ passage.depart
  | sweep => exact List.suffix_cons _ _
  | elapsed nanoseconds => exact List.suffix_refl _

theorem traffic_cons (passage : Passage) (occasion : Occasion) (later : List Occasion) :
    traffic service passage (occasion :: later) =
      ((occasion.take service passage).1 ++ (traffic service (occasion.take service passage).2 later).1,
        (traffic service (occasion.take service passage).2 later).2) :=
  rfl

theorem suffix_calls_traffic (occasions : List Occasion) (passage : Passage) :
    passage.calls <:+ (traffic service passage occasions).2.calls := by
  induction occasions generalizing passage with
  | nil => exact List.suffix_refl _
  | cons occasion later hypothesis => exact (occasion.suffix_calls_take passage).trans (hypothesis _)

/-- A request is answered the same, and leaves the stores alike. -/
theorem Occasion.serve_alike {answer : Http.Request -> Program Http.Response} {request : Http.Request}
    {timetable : Timetable} (endsAlike : (answer request).EndsAlike timetable start log)
    (alike : Alike start passage other) (kept : (serve answer request timetable passage).2.calls <:+ log) :
    (serve answer request timetable passage).1 = (serve answer request timetable other).1 ∧
      Alike start (serve answer request timetable passage).2 (serve answer request timetable other).2 := by
  have ends := Http.endsAlike_identified endsAlike passage.depart other.depart (alike.depart timetable) kept
  exact ⟨congrArg (fun response => [response]) ends.1, ends.2⟩

theorem Occasion.take_sweep (service : Service) (passage : Passage) :
    Occasion.sweep.take service passage = ([], passage.after (.tokens (.deleteExpired passage.world.now))) :=
  rfl

/-- A sweep at the first server alone. -/
theorem Occasion.take_sweep_left (service : Service) (alike : Alike start passage other) :
    Alike start (Occasion.sweep.take service passage).2 other := by
  rw [take_sweep]
  exact alike.left rfl (World.living?_deleteExpired passage.world)

/-- A sweep at the second server alone. -/
theorem Occasion.take_sweep_right (service : Service) (alike : Alike start passage other) :
    Alike start passage (Occasion.sweep.take service other).2 := by
  rw [take_sweep]
  exact alike.right rfl (World.living?_deleteExpired other.world)

theorem Occasion.take_alike (fresh : IsFresh start log) (alike : Alike start passage other) (occasion : Occasion)
    (kept : (occasion.take service passage).2.calls <:+ log) :
    (occasion.take service passage).1 = (occasion.take service other).1 ∧
      Alike start (occasion.take service passage).2 (occasion.take service other).2 := by
  cases occasion with
  | publicRequest request timetable => exact serve_alike (endsAlike_answerPublic fresh request) alike kept
  | managementRequest request timetable => exact serve_alike (endsAlike_answerManagement request) alike kept
  | sweep => exact ⟨rfl, take_sweep_right service (take_sweep_left service alike)⟩
  | elapsed nanoseconds =>
    have later := alike.atTime (Int.le_add_of_nonneg_right (Int.natCast_nonneg nanoseconds))
    refine ⟨rfl, ?_⟩
    rw [take, take, ← alike.now_eq]
    exact later

/-- Sweeps that come before anything else are not told by the responses. -/
theorem exists_traffic_after_sweeps (alike : Alike start passage other) {sweeps : List Occasion}
    (only : ∀ occasion ∈ sweeps, occasion.isSweep = true) (rest : List Occasion) :
    ∃ swept, Alike start passage swept ∧
      (traffic service other (sweeps ++ rest)).1 = (traffic service swept rest).1 := by
  induction sweeps generalizing other with
  | nil => exact ⟨other, alike, rfl⟩
  | cons occasion later hypothesis =>
    rcases List.forall_mem_cons.mp only with ⟨sweeps, remain⟩
    cases occasion with
    | sweep => exact hypothesis (Occasion.take_sweep_right service alike) remain
    | _ => cases sweeps

/-- The responses at two servers are the same, whatever sweeps there are at either. -/
theorem traffic_alike (fresh : IsFresh start log) (alike : Alike start passage other) {first second : List Occasion}
    (same : first.filter (fun occasion => !occasion.isSweep) = second.filter fun occasion => !occasion.isSweep)
    (kept : (traffic service passage first).2.calls <:+ log) :
    (traffic service passage first).1 = (traffic service other second).1 := by
  induction first generalizing second passage other with
  | nil =>
    have only : ∀ occasion ∈ second, occasion.isSweep = true := by simpa using same.symm
    rcases exists_traffic_after_sweeps alike only [] with ⟨swept, _, told⟩
    rw [List.append_nil] at told
    exact told.symm
  | cons occasion later hypothesis =>
    cases sweeps : occasion.isSweep with
    | true =>
      cases occasion with
      | sweep => exact hypothesis (Occasion.take_sweep_left service alike) same kept
      | _ => cases sweeps
    | false =>
      rw [List.filter_cons_of_pos (by rw [sweeps]; rfl)] at same
      rcases List.filter_eq_cons_iff.mp same.symm with ⟨before, rest, rfl, only, _, rest_eq⟩
      rcases exists_traffic_after_sweeps alike (by simpa using only) (occasion :: rest) with ⟨swept, alike, told⟩
      have taken := occasion.take_alike fresh alike ((suffix_calls_traffic later _).trans kept)
      rw [told, traffic_cons, traffic_cons, taken.1, hypothesis taken.2 rest_eq.symm kept]

end Api

/-- Two servers that begin with the same records, see the same requests on
both interfaces at the same times and draw the same random bytes send the same
responses, whatever sweeps there are at either.  No store call fails, and the
clock is never set back.  The refresh tokens that are made are new: none is
stored under the digest of another one. -/
theorem sweeps_are_invisible (service : Service) (start : World) (first second : List Api.Occasion)
    (same : first.filter (fun occasion => !occasion.isSweep) = second.filter fun occasion => !occasion.isSweep)
    (fresh : IsFresh start (Api.traffic service ⟨start, []⟩ first).2.calls) :
    (Api.traffic service ⟨start, []⟩ first).1 = (Api.traffic service ⟨start, []⟩ second).1 :=
  Api.traffic_alike fresh (Alike.refl start) same (List.suffix_refl _)

namespace Sample

/-- The timetable of a run whose steps are a nanosecond apart. -/
def brisk : Timetable :=
  ⟨fun number => min number 99, 99, fun number => by omega, fun number => by omega⟩

/-- A request with a JSON body. -/
def post (target body : String) : Http.Request :=
  ⟨"POST", target, [⟨"content-type", Bytes.ofString "application/json"⟩], Bytes.ofString body⟩

def loginRequest : Http.Request :=
  post "/v1/sessions" ("\x7b\"email\":\"" ++ email ++ "\",\"password\":\"" ++ password ++ "\",\"appId\":1\x7d")

def refreshRequest : Http.Request :=
  post "/v1/sessions/refresh" ("\x7b\"refreshToken\":\"" ++ firstToken ++ "\"\x7d")

/-- The user logs in, and two days pass. -/
def absence : List Api.Occasion :=
  [.publicRequest loginRequest brisk, .elapsed 172800000000000]

/-- The user comes back. -/
def comeback : Api.Occasion := .publicRequest refreshRequest brisk

end Sample

/-- A refresh comes too late, whether or not its token has been swept away. -/
theorem sweeps_are_invisible_of_absence :
    (Sample.absence ++ [Sample.comeback]).filter (fun occasion => !occasion.isSweep) =
        (Sample.absence ++ [.sweep, Sample.comeback, .sweep]).filter (fun occasion => !occasion.isSweep) ∧
      IsFresh Sample.world (Api.traffic Sample.service ⟨Sample.world, []⟩
        (Sample.absence ++ [Sample.comeback])).2.calls ∧
      (Api.traffic Sample.service ⟨Sample.world, []⟩ Sample.absence).2.world.stores.tokens.tokens.size = 1 ∧
      (Api.traffic Sample.service ⟨Sample.world, []⟩
        (Sample.absence ++ [.sweep])).2.world.stores.tokens.tokens.size = 0 ∧
      (Api.traffic Sample.service ⟨Sample.world, []⟩
        (Sample.absence ++ [Sample.comeback])).1.map Http.Response.status = [200, 401] ∧
      (Api.traffic Sample.service ⟨Sample.world, []⟩ (Sample.absence ++ [Sample.comeback])).1 =
        (Api.traffic Sample.service ⟨Sample.world, []⟩ (Sample.absence ++ [.sweep, Sample.comeback, .sweep])).1 := by
  have observed :
      (newDigests (Api.traffic Sample.service ⟨Sample.world, []⟩
        (Sample.absence ++ [Sample.comeback])).2.calls).Nodup ∧
      (∀ digest ∈ newDigests (Api.traffic Sample.service ⟨Sample.world, []⟩
        (Sample.absence ++ [Sample.comeback])).2.calls, Sample.world.record? digest = none) ∧
      (Api.traffic Sample.service ⟨Sample.world, []⟩ Sample.absence).2.world.stores.tokens.tokens.size = 1 ∧
      (Api.traffic Sample.service ⟨Sample.world, []⟩
        (Sample.absence ++ [.sweep])).2.world.stores.tokens.tokens.size = 0 ∧
      (Api.traffic Sample.service ⟨Sample.world, []⟩
        (Sample.absence ++ [Sample.comeback])).1.map Http.Response.status = [200, 401] := by
    decide +kernel
  rcases observed with ⟨distinct, unstored, kept, swept, statuses⟩
  have fresh : IsFresh Sample.world (Api.traffic Sample.service ⟨Sample.world, []⟩
      (Sample.absence ++ [Sample.comeback])).2.calls := ⟨distinct, unstored⟩
  exact ⟨rfl, fresh, kept, swept, statuses, sweeps_are_invisible Sample.service Sample.world _ _ rfl fresh⟩

end SingleSignOn

import SingleSignOn.Proofs.History.Description
import SingleSignOn.Proofs.Program.Interleaving

namespace SingleSignOn

/-!
# How a refresh fails

A refresh has one answer for whatever is wrong with the token that it is
given.  It fails in another way only if a store call fails or if an expiry
cannot be represented.  `Program.Yields` follows a program through the
replies and the instants that leave this out.
-/

namespace Program

variable {α β : Type} {reads : Instant -> Prop}

/-- Whatever a program ends with meets `ends`, as long as its store calls
succeed and the clock is read only at instants that meet `reads`. -/
def Yields (reads : Instant -> Prop) (ends : α -> Prop) : Program α -> Prop
  | .done result => ends result
  | .call _ request next => forall reply : request.Reply, (next (some (.ok reply))).Yields reads ends
  | .clock next => forall now, reads now -> (next now).Yields reads ends
  | .draw _ next => forall bytes, (next bytes).Yields reads ends

theorem Yields.bind {program : Program α} {continuation : α -> Program β} {middle : α -> Prop}
    {ends : β -> Prop} (first : program.Yields reads middle)
    (second : forall result, middle result -> (continuation result).Yields reads ends) :
    (program.bind continuation).Yields reads ends := by
  induction program with
  | done result => exact second result first
  | call patience request next hypothesis => exact fun reply => hypothesis (some (.ok reply)) (first reply)
  | clock next hypothesis => exact fun now readable => hypothesis now (first now readable)
  | draw count next hypothesis => exact fun bytes => hypothesis bytes (first bytes)

end Program

namespace Operation

variable {α β : Type} {reads : Instant -> Prop} {success : α -> Prop}

/-- An answer is a value as told, or refuses what the operation was given. -/
def Settles (success : α -> Prop) : Except Error α -> Prop
  | .ok value => success value
  | .error error => error = .invalidCredentials

/-- An operation succeeds with a value as told, or refuses what it was given. -/
def Yields (reads : Instant -> Prop) (success : α -> Prop) (operation : Operation α) : Prop :=
  Program.Yields reads (Settles success) operation.run

theorem Yields.bind {operation : Operation β} {continuation : β -> Operation α} {middle : β -> Prop}
    (first : Yields reads middle operation)
    (second : forall value, middle value -> Yields reads success (continuation value)) :
    Yields reads success (operation >>= continuation) := by
  show Program.Yields reads _ (operation.run.bind (ExceptT.bindCont continuation))
  refine Program.Yields.bind first fun answer good => ?_
  cases answer with
  | ok value => exact second value good
  | error error => exact good

theorem yields_call (patience : Nat) (request : StoreCall) :
    Yields reads (fun _ => True) (Operation.call patience request) :=
  fun _ => trivial

theorem yields_attempt (patience : Nat) (request : StoreCall) :
    Yields reads (fun _ => True) (Operation.attempt patience request) :=
  fun _ => trivial

theorem yields_now : Yields reads reads (ofProgram Program.now) :=
  fun _ readable => readable

theorem yields_orFail (error : Error) {found : Option α} (there : found.isSome = true) :
    Yields reads (fun _ => True) (orFail error found) := by
  cases found with
  | none => cases there
  | some value => trivial

end Operation

/-! ## The refresh -/

namespace Service

open Operation

variable (service : Service)

theorem yields_activeApp (appId : AppId) {reads : Instant -> Prop} :
    Yields reads (fun _ => True) (service.activeApp appId) :=
  (yields_call _ _).bind fun _ _ => trivial

/-- No issue of a session fails while both of its expiries can be represented. -/
theorem yields_issueSession (user : User) (app : App) (isAdmin : Bool) :
    Yields service.CanIssueAt (fun _ => True) (service.issueSession user app isAdmin) := by
  refine yields_now.bind fun now issues => ?_
  have signs : Yields service.CanIssueAt (fun _ => True) (ExceptT.mk (pure (AccessToken.issue service.primitives
      ⟨user.id, user.email, app.id, isAdmin⟩ app.secret service.auth.accessTokenLifetime now))) := by
    rcases Option.isSome_iff_exists.mp issues.1 with ⟨expiresAt, expiry⟩
    unfold AccessToken.issue
    rw [expiry]
    trivial
  refine signs.bind fun issued _ => ?_
  refine (yields_orFail .internal issues.2).bind fun deadline _ => ?_
  exact fun bytes => trivial

theorem yields_refresh (token : String) :
    Yields service.CanIssueAt (fun _ => True) (service.refresh token) := by
  unfold Service.refresh
  refine (yields_call _ _).bind fun found _ => ?_
  rcases found with _ | stored
  · exact rfl
  refine yields_now.bind fun now _ => ?_
  dsimp only
  split
  · refine (yields_attempt _ _).bind fun _ _ => ?_
    exact rfl
  refine (yields_call _ _).bind fun found _ => ?_
  rcases found with _ | user
  · exact rfl
  refine (service.yields_activeApp _).bind fun found _ => ?_
  rcases found with _ | app
  · exact rfl
  refine (yields_call _ _).bind fun isAdmin _ => ?_
  refine (service.yields_issueSession user app isAdmin).bind fun issued _ => ?_
  refine (yields_call _ _).bind fun _ _ => ?_
  refine (yields_attempt _ _).bind fun removed _ => ?_
  split
  · refine (yields_attempt _ _).bind fun _ _ => ?_
    exact rfl
  · trivial

end Service

/-! ## Refreshes in progress -/

/-- Whether a call is a refresh. -/
def ServiceCall.isRefresh : ServiceCall -> Bool
  | .refresh _ => true
  | _ => false

/-- If the call is a refresh, it will be answered with a session or refused. -/
def Process.OnlyRefuses (service : Service) (process : Process) : Prop :=
  process.call.isRefresh = true ->
    process.rest.Yields service.CanIssueAt (Operation.Settles fun _ => True)

theorem Process.onlyRefuses_start (service : Service) (call : ServiceCall) :
    (Process.start service call).OnlyRefuses service := by
  intro refreshes
  cases call with
  | refresh token => exact service.yields_refresh token
  | _ => cases refreshes

/-- Whether a process is a refresh that looks at the clock next. -/
def Process.refreshReadsClock : Process -> Bool
  | ⟨.refresh _, .clock _⟩ => true
  | _ => false

/-- A refresh looks at the clock only when a session can be issued. -/
def System.ReadsIssuable (service : Service) (system : System) (event : Event) : Prop :=
  ∀ process ∈ system.mover? event,
    process.refreshReadsClock = true -> service.CanIssueAt system.world.now

instance (service : Service) (system : System) (event : Event) :
    Decidable (system.ReadsIssuable service event) :=
  inferInstanceAs (Decidable (∀ process ∈ system.mover? event,
    process.refreshReadsClock = true -> service.CanIssueAt system.world.now))

/-- A store call of a refresh succeeds. -/
def System.ServesRefresh (system : System) (event : Event) : Prop :=
  forall number ending token rest request, event = .proceed number ending ->
    system.processes[number]? = some ⟨.refresh token, rest⟩ -> rest.request? = some request ->
    ∃ reply, (system.world.endCall request ending).1 = some (.ok reply)

/-- One step of a process, under the same conditions. -/
theorem Process.OnlyRefuses.step {service : Service} {system : System} {number : Nat} {ending : Ending}
    {process : Process} (before : process.OnlyRefuses service)
    (readable : system.ReadsIssuable service (.proceed number ending))
    (serves : system.ServesRefresh (.proceed number ending))
    (found : system.processes[number]? = some process) :
    (process.step ending system.world).1.OnlyRefuses service := by
  rcases process with ⟨call, rest⟩
  intro refreshes
  cases call with
  | refresh token =>
    have yields := before rfl
    cases rest with
    | done answer => exact yields
    | clock next =>
      have issues : service.CanIssueAt system.world.now := readable _ found rfl
      exact yields system.world.now issues
    | draw count next => exact yields (system.world.entropy system.world.draws count)
    | call patience request next =>
      rcases serves number ending token _ request rfl found rfl with ⟨reply, replied⟩
      show ((next (system.world.endCall request ending).1).Yields _ _)
      rw [replied]
      exact yields reply
  | _ => cases refreshes

/-- An event under which no refresh fails by itself changes nothing about how it may end. -/
theorem System.onlyRefuses_step {service : Service} {system : System} {event : Event}
    (readable : system.ReadsIssuable service event) (serves : system.ServesRefresh event)
    (before : ∀ process ∈ system.processes, process.OnlyRefuses service) :
    ∀ process ∈ (system.step service event).processes, process.OnlyRefuses service := by
  cases event with
  | «begin» call =>
    intro process member
    rcases List.mem_append.mp member with old | new
    · exact before process old
    · rw [List.mem_singleton.mp new]
      exact Process.onlyRefuses_start service call
  | setClock now => exact before
  | proceed number ending =>
    cases found : system.processes[number]? with
    | none =>
      simp only [System.step, found]
      exact before
    | some process =>
      simp only [System.step, found]
      intro other member
      rcases List.mem_or_eq_of_mem_set member with old | rfl
      · exact before other old
      · exact (before process (List.mem_of_getElem? found)).step readable serves found

end SingleSignOn

import Mathlib.Algebra.GroupWithZero.Nat
import Mathlib.Data.List.Basic
import Mathlib.Data.List.Induction
import SingleSignOn.Proofs.Program.Discipline
import SingleSignOn.Proofs.Store.Filing
import SingleSignOn.Service.Interleaving

namespace SingleSignOn

/-!
# Calls in progress, seen as stages

When every call of the service keeps to a discipline, a run of many calls
over one world can be told by the stages they have reached.  `Tracking.Move`
lists everything that an event can do to these stages and to the world, and
`Tracking.tracks_step` says that an event does nothing else.  A property that
no such move breaks holds at the end of every run, however its calls are
interleaved (`Tracking.tracks_run`).
-/

/-! ## What an event is about -/

/-- The store call that a program stands at. -/
def Program.request? {α : Type} : Program α -> Option StoreCall
  | .call _ request _ => some request
  | _ => none

/-- The random bytes that a program draws next. -/
def Program.drawn? {α : Type} (world : World) : Program α -> Option Bytes
  | .draw count _ => some (world.entropy world.draws count)
  | _ => none

namespace System

/-- The process that an event lets go on. -/
def mover? (system : System) : Event -> Option Process
  | .proceed number _ => system.processes[number]?
  | _ => none

/-- The store call that an event ends. -/
def request? (system : System) (event : Event) : Option StoreCall :=
  (system.mover? event).bind fun process => process.rest.request?

/-- The random bytes that an event draws, and the call that they are for. -/
def drawn? (system : System) (event : Event) : Option (ServiceCall × Bytes) :=
  (system.mover? event).bind fun process =>
    (process.rest.drawn? system.world).map fun bytes => (process.call, bytes)

/-- All random bytes that are drawn in a run. -/
def draws (service : Service) (system : System) : List Event -> List (ServiceCall × Bytes)
  | [] => []
  | event :: later => (system.drawn? event).toList ++ draws service (system.step service event) later

/-- A condition holds of every event of a run, at the system that it meets. -/
def Throughout (service : Service) (condition : System -> Event -> Prop) (system : System) :
    List Event -> Prop
  | [] => True
  | event :: later => condition system event ∧ Throughout service condition (system.step service event) later

instance decidableThroughout (service : Service) (condition : System -> Event -> Prop)
    [forall system event, Decidable (condition system event)] :
    (system : System) -> (events : List Event) ->
    Decidable (Throughout service condition system events)
  | _, [] => inferInstanceAs (Decidable True)
  | system, event :: later =>
    let _ := decidableThroughout service condition (system.step service event) later
    inferInstanceAs (Decidable (_ ∧ _))

variable {service : Service}

theorem run_append (system : System) (first second : List Event) :
    system.run service (first ++ second) = (system.run service first).run service second :=
  List.foldl_append

theorem draws_append (system : System) (first second : List Event) :
    system.draws service (first ++ second) =
      system.draws service first ++ (system.run service first).draws service second := by
  induction first generalizing system with
  | nil => rfl
  | cons event later hypothesis =>
    rw [List.cons_append, draws, draws, hypothesis, List.append_assoc]
    rfl

theorem draws_append_singleton (system : System) (past : List Event) (event : Event) :
    system.draws service (past ++ [event]) =
      system.draws service past ++ ((system.run service past).drawn? event).toList := by
  rw [draws_append, draws, draws, List.append_nil]

theorem throughout_append {condition : System -> Event -> Prop} {system : System}
    {first second : List Event} :
    system.Throughout service condition (first ++ second) ↔
      system.Throughout service condition first ∧
        (system.run service first).Throughout service condition second := by
  induction first generalizing system with
  | nil => exact (and_iff_right trivial).symm
  | cons event later hypothesis =>
    exact (and_congr_right fun _ => hypothesis).trans and_assoc.symm

theorem Throughout.mono {strong weak : System -> Event -> Prop}
    (weaker : forall system event, strong system event -> weak system event) {system : System}
    {events : List Event} (always : Throughout service strong system events) :
    Throughout service weak system events := by
  induction events generalizing system with
  | nil => trivial
  | cons event later hypothesis => exact ⟨weaker system event always.1, hypothesis always.2⟩

theorem Throughout.and {first second : System -> Event -> Prop}
    {system : System} {events : List Event} (one : Throughout service first system events)
    (other : Throughout service second system events) :
    Throughout service (fun system event => first system event ∧
      second system event) system events := by
  induction events generalizing system with
  | nil => trivial
  | cons event later hypothesis => exact ⟨⟨one.1, other.1⟩, hypothesis one.2 other.2⟩

/-- What holds of every event holds throughout. -/
theorem throughout_of_forall_mem {condition : Event -> Prop} {system : System}
    {events : List Event} (every : ∀ event ∈ events, condition event) :
    Throughout service (fun _ event => condition event) system events := by
  induction events generalizing system with
  | nil => trivial
  | cons event later hypothesis =>
    exact ⟨every event List.mem_cons_self,
      hypothesis fun other member => every other (List.mem_cons_of_mem _ member)⟩

/-- An event that draws ends no store call. -/
theorem request?_of_drawn? {system : System} {event : Event} {drawn : ServiceCall × Bytes}
    (drew : system.drawn? event = some drawn) : system.request? event = none := by
  unfold drawn? at drew
  unfold request?
  cases moves : system.mover? event with
  | none => rfl
  | some process =>
    rw [moves, Option.bind_some] at drew
    rcases process with ⟨call, _ | _ | _ | _⟩
    · rfl
    · cases drew
    · rfl
    · rfl

end System

/-- No store call fails: the one that an event ends is carried out. -/
def Event.IsSmooth : Event -> Prop
  | .proceed _ ending => ending = .carriedOut
  | _ => True

instance (event : Event) : Decidable event.IsSmooth :=
  match event with
  | .begin _ => inferInstanceAs (Decidable True)
  | .proceed _ ending => inferInstanceAs (Decidable (ending = .carriedOut))
  | .setClock _ => inferInstanceAs (Decidable True)

/-- The call that begins with an event. -/
def Event.begun? : Event -> Option ServiceCall
  | .begin call => some call
  | _ => none

theorem System.calls_step (service : Service) (system : System) (event : Event) :
    (system.step service event).processes.map Process.call =
      system.processes.map Process.call ++ event.begun?.toList := by
  cases event with
  | «begin» call => exact List.map_append
  | setClock now => exact (List.append_nil _).symm
  | proceed number ending =>
    refine Eq.trans ?_ (List.append_nil _).symm
    cases found : system.processes[number]? with
    | none => simp only [step, found]
    | some process =>
      have listed : (system.processes.map Process.call)[number]? = some process.call := by
        rw [List.getElem?_map, found]
        rfl
      rcases List.getElem?_eq_some_iff.mp listed with ⟨inside, same⟩
      simp only [step, found, List.map_set]
      show (system.processes.map Process.call).set number process.call = _
      rw [← same, List.set_getElem_self]

/-- The calls in progress are those that were before and those that have begun since. -/
theorem System.calls_run (service : Service) (system : System) (events : List Event) :
    (system.run service events).processes.map Process.call =
      system.processes.map Process.call ++ events.filterMap Event.begun? := by
  induction events generalizing system with
  | nil => exact (List.append_nil _).symm
  | cons event later hypothesis =>
    refine (hypothesis (system.step service event)).trans ?_
    rw [calls_step, List.append_assoc, List.filterMap_cons]
    cases event.begun? <;> rfl

/-- A call keeps its number. -/
theorem System.exists_process_run (service : Service) {system : System} {number : Nat} {process : Process}
    (found : system.processes[number]? = some process) (events : List Event) :
    ∃ rest, (system.run service events).processes[number]? = some ⟨process.call, rest⟩ := by
  have listed : ((system.run service events).processes.map Process.call)[number]? = some process.call := by
    rw [calls_run, List.getElem?_append_left, List.getElem?_map, found]
    · rfl
    · rw [List.length_map]
      exact (List.getElem?_eq_some_iff.mp found).1
  rw [List.getElem?_map, Option.map_eq_some_iff] at listed
  rcases listed with ⟨⟨call, rest⟩, there, rfl⟩
  exact ⟨rest, there⟩

/-- A call that begins has a number that no earlier call has. -/
theorem System.exists_process_of_begun (service : Service) (system : System) {events : List Event}
    {event : Event} (member : event ∈ events) {call : ServiceCall} (begins : event.begun? = some call) :
    ∃ number rest, system.processes.length ≤ number ∧
      (system.run service events).processes[number]? = some ⟨call, rest⟩ := by
  rcases List.getElem?_of_mem (List.mem_filterMap.mpr ⟨event, member, begins⟩) with ⟨place, at'⟩
  have listed : ((system.run service events).processes.map Process.call)[system.processes.length + place]? =
      some call := by
    rw [calls_run, List.getElem?_append_right, List.length_map, Nat.add_sub_cancel_left, at']
    rw [List.length_map]
    exact Nat.le_add_right _ _
  rw [List.getElem?_map, Option.map_eq_some_iff] at listed
  rcases listed with ⟨⟨called, rest⟩, there, rfl⟩
  exact ⟨_, rest, Nat.le_add_right _ _, there⟩

/-- The calls of a system, and whether they were answered with success. -/
def System.verdicts (system : System) : List (ServiceCall × Option Bool) :=
  system.processes.map fun process => (process.call, process.answer?.map Except.isOk)

theorem System.getElem?_verdicts (system : System) (number : Nat) :
    system.verdicts[number]? =
      system.processes[number]?.map fun process => (process.call, process.answer?.map Except.isOk) :=
  List.getElem?_map

theorem System.exists_answer {system : System} {number : Nat} {call : ServiceCall} {verdict : Bool}
    (shown : system.verdicts[number]? = some (call, some verdict)) :
    ∃ answer : Except Error call.Reply, system.processes[number]? = some ⟨call, .done answer⟩ ∧
      answer.isOk = verdict := by
  rw [getElem?_verdicts, Option.map_eq_some_iff] at shown
  rcases shown with ⟨⟨_, rest⟩, found, same⟩
  rcases Prod.mk.inj same with ⟨called, judged⟩
  cases called
  rcases Option.map_eq_some_iff.mp judged with ⟨answer, answered, so⟩
  have ended := rest.eq_done_of_result? answer answered
  exact ⟨answer, found.trans (congrArg (fun rest => some (Process.mk _ rest)) ended), so⟩

/-- A store call is ended in a run for the call of a number. -/
def System.Asks (service : Service) (system : System) (events : List Event) (number : Nat)
    (request : StoreCall) : Prop :=
  ∃ earlier ending later, events = earlier ++ .proceed number ending :: later ∧
    (system.run service earlier).request? (.proceed number ending) = some request

theorem System.Asks.more {service : Service} {system : System} {events : List Event} {number : Nat}
    {request : StoreCall} (asks : system.Asks service events number request) (event : Event) :
    system.Asks service (events ++ [event]) number request := by
  rcases asks with ⟨earlier, ending, later, rfl, asked⟩
  exact ⟨earlier, ending, later ++ [event], by rw [List.append_assoc, List.cons_append], asked⟩

/-! ## One among many -/

theorem getElem?_append_cons_length {α : Type} (before : List α) (value : α) (after : List α) :
    (before ++ value :: after)[before.length]? = some value := by
  rw [List.getElem?_append_right (Nat.le_refl _), Nat.sub_self, List.getElem?_cons_zero]

theorem exists_append_of_getElem? {α : Type} {values : List α} {number : Nat} {value : α}
    (found : values[number]? = some value) :
    ∃ before after, values = before ++ value :: after ∧ number = before.length := by
  rcases List.getElem?_eq_some_iff.mp found with ⟨inside, rfl⟩
  refine ⟨values.take number, values.drop (number + 1), ?_, ?_⟩
  · rw [← List.drop_eq_getElem_cons inside, List.take_append_drop]
  · rw [List.length_take, Nat.min_eq_left (Nat.le_of_lt inside)]

/-- Only what stands in the middle is changed. -/
theorem eq_or_mem_of_middle {α : Type} (first after : List α) (before value : α) {found : α}
    (member : found ∈ first ++ value :: after) : found = value ∨ found ∈ first ++ before :: after := by
  rcases List.mem_cons.mp (List.perm_middle.mem_iff.mp member) with same | old
  · exact .inl same
  · exact .inr (List.perm_middle.mem_iff.mpr (List.mem_cons_of_mem _ old))

theorem eq_or_getElem?_of_middle {α : Type} (first after : List α) (before value : α) {number : Nat}
    {found : α} (at' : (first ++ value :: after)[number]? = some found) :
    (number = first.length ∧ found = value) ∨ (first ++ before :: after)[number]? = some found := by
  rcases Nat.lt_trichotomy number first.length with less | same | more
  · rw [List.getElem?_append_left less] at at' ⊢
    exact .inr at'
  · subst same
    rw [getElem?_append_cons_length] at at'
    exact .inl ⟨rfl, (Option.some.inj at').symm⟩
  · right
    rw [List.getElem?_append_right (Nat.le_of_lt more)] at at' ⊢
    rcases Nat.exists_eq_add_of_lt more with ⟨distance, rfl⟩
    rw [show first.length + distance + 1 - first.length = distance + 1 by omega,
      List.getElem?_cons_succ] at at' ⊢
    exact at'

/-- One of the values that meets a condition is the only one. -/
theorem exists_only_of_countP_eq_one {α : Type} {values : List α} {condition : α -> Bool}
    (one : values.countP condition = 1) :
    ∃ before value after, values = before ++ value :: after ∧ condition value = true ∧
      ∀ other ∈ before ++ after, condition other = false := by
  rcases List.countP_pos_iff.mp (Nat.lt_of_lt_of_eq Nat.one_pos one.symm) with ⟨value, member, meets⟩
  rcases List.append_of_mem member with ⟨before, after, rfl⟩
  refine ⟨before, value, after, rfl, meets, fun other listed => ?_⟩
  rw [List.countP_append, List.countP_cons, if_pos meets] at one
  have none : (before ++ after).countP condition = 0 := by
    rw [List.countP_append]
    omega
  exact Bool.eq_false_iff.mpr (List.countP_eq_zero.mp none other listed)

/-! ## Tracking -/

/-- A discipline for the calls of a service, which they all keep to. -/
structure Tracking (service : Service) (Stage : Type) where
  discipline : ServiceCall -> Discipline Stage
  /-- The stage in which a call ends with an answer. -/
  fits : (call : ServiceCall) -> Stage -> Except Error call.Reply -> Prop
  /-- The stage in which a call begins. -/
  start : Stage
  follows : forall call, (service.program call).Follows (discipline call) (fits call) start

namespace Tracking

variable {service : Service} {Stage : Type} (tracking : Tracking service Stage)

/-- A process with the stage that it has reached. -/
structure Participant where
  process : Process
  stage : Stage
  follows : process.rest.Follows (tracking.discipline process.call) (tracking.fits process.call) stage

/-- Processes stand at stages: they are those of participants, in order. -/
def Tracks (processes : List Process) (standings : List (ServiceCall × Stage)) : Prop :=
  ∃ participants : List (Participant tracking),
    processes = participants.map Participant.process ∧
      standings = participants.map fun participant => (participant.process.call, participant.stage)

/-- What an event does to a system whose calls stand at stages. -/
inductive Move (system : System) (event : Event) :
    List (ServiceCall × Stage) -> World -> List (ServiceCall × Stage) -> Prop where
  | began {standings : List (ServiceCall × Stage)} (call : ServiceCall) (told : event = .begin call) :
    Move system event standings system.world (standings ++ [(call, tracking.start)])
  | clockSet {standings : List (ServiceCall × Stage)} (now : Instant) (told : event = .setClock now) :
    Move system event standings { system.world with now := now } standings
  /-- A call looked at the clock, or there was nothing left to do. -/
  | stayed {standings : List (ServiceCall × Stage)} (unasked : system.request? event = none) :
    Move system event standings system.world standings
  | drew (before : List (ServiceCall × Stage)) (call : ServiceCall) (stage later : Stage)
      (after : List (ServiceCall × Stage)) (bytes : Bytes) (drawn : system.drawn? event = some (call, bytes))
      (moved : (tracking.discipline call).drew stage bytes later) :
    Move system event (before ++ (call, stage) :: after)
      { system.world with draws := system.world.draws + 1 } (before ++ (call, later) :: after)
  | called (before : List (ServiceCall × Stage)) (call : ServiceCall) (stage : Stage)
      (after : List (ServiceCall × Stage)) (request : StoreCall) (ending : Ending)
      (told : event = .proceed before.length ending) (requested : system.request? event = some request)
      (allowed : (tracking.discipline call).allows stage request) :
    Move system event (before ++ (call, stage) :: after) (system.world.endCall request ending).2
      (before ++ (call, (tracking.discipline call).replied stage request
        (system.world.endCall request ending).1) :: after)

variable {tracking}

/-- An event that ends a store call is a step of the call that made it. -/
theorem Move.called_of_request? {system : System} {event : Event} {request : StoreCall} {world : World}
    {standings later : List (ServiceCall × Stage)} (move : tracking.Move system event standings world later)
    (requested : system.request? event = some request) :
    ∃ before call stage after ending, event = .proceed before.length ending ∧
      standings = before ++ (call, stage) :: after ∧ (tracking.discipline call).allows stage request ∧
      world = (system.world.endCall request ending).2 ∧
      later = before ++ (call, (tracking.discipline call).replied stage request
        (system.world.endCall request ending).1) :: after := by
  cases move with
  | began call told =>
    rw [told] at requested
    cases requested
  | clockSet now told =>
    rw [told] at requested
    cases requested
  | stayed unasked => cases unasked.symm.trans requested
  | drew before call stage next after bytes drawn moved =>
    cases (System.request?_of_drawn? drawn).symm.trans requested
  | called before call stage after other ending told asked allowed =>
    cases asked.symm.trans requested
    exact ⟨before, call, stage, after, ending, told, rfl, allowed, rfl, rfl⟩

/-- What holds of each call by itself, before an event and after it, is looked
at where a call begins, goes on or stays where it is. -/
theorem Move.each {system : System} {event : Event} {world : World}
    {standings later : List (ServiceCall × Stage)} (move : tracking.Move system event standings world later)
    (earlier holds : Nat -> ServiceCall -> Stage -> Prop)
    (begins : forall number call, event = .begin call -> holds number call tracking.start)
    (stays : forall number call stage, earlier number call stage -> holds number call stage)
    (draws : forall number call stage bytes after, (tracking.discipline call).drew stage bytes after ->
      earlier number call stage -> holds number call after)
    (calls : forall number call stage request ending, event = .proceed number ending ->
      system.request? event = some request -> (tracking.discipline call).allows stage request ->
      world = (system.world.endCall request ending).2 -> earlier number call stage ->
      holds number call ((tracking.discipline call).replied stage request (system.world.endCall request ending).1))
    (before : forall number call stage, standings[number]? = some (call, stage) -> earlier number call stage)
    (number : Nat) (call : ServiceCall) (stage : Stage) (stands : later[number]? = some (call, stage)) :
    holds number call stage := by
  cases move with
  | began new told =>
    rw [List.getElem?_append] at stands
    split at stands
    · exact stays _ _ _ (before number call stage stands)
    · cases List.mem_singleton.mp (List.mem_of_getElem? stands)
      exact begins number _ told
  | clockSet now told => exact stays _ _ _ (before number call stage stands)
  | stayed unasked => exact stays _ _ _ (before number call stage stands)
  | drew first mover reached next after bytes drawn moved =>
    rcases eq_or_getElem?_of_middle first after (mover, reached) _ stands with ⟨rfl, same⟩ | old
    · cases same
      exact draws _ _ reached bytes _ moved (before _ _ _ (getElem?_append_cons_length first _ after))
    · exact stays _ _ _ (before number call stage old)
  | called first mover reached after request ending told requested allowed =>
    rcases eq_or_getElem?_of_middle first after (mover, reached) _ stands with ⟨rfl, same⟩ | old
    · cases same
      exact calls _ _ reached request ending told requested allowed rfl
        (before _ _ _ (getElem?_append_cons_length first _ after))
    · exact stays _ _ _ (before number call stage old)

/-- What every call keeps of users, apps and grants is kept by every event. -/
theorem Move.credentials {system : System} {event : Event} {standings later : List (ServiceCall × Stage)}
    {world : World} (move : tracking.Move system event standings world later) (holds : CredentialStore -> Prop)
    (kept : forall store now call, holds store -> holds (CredentialStore.answer store now call).2)
    (before : holds system.world.stores.credentials) : holds world.stores.credentials := by
  cases move with
  | called first call stage after request ending => exact World.credentials_endCall holds kept request ending before
  | _ => exact before

theorem tracks_nil : tracking.Tracks [] [] :=
  ⟨[], rfl, rfl⟩

theorem Tracks.length_eq {processes : List Process} {standings : List (ServiceCall × Stage)}
    (tracks : tracking.Tracks processes standings) : standings.length = processes.length := by
  rcases tracks with ⟨participants, rfl, rfl⟩
  rw [List.length_map, List.length_map]

theorem Tracks.map_fst {processes : List Process} {standings : List (ServiceCall × Stage)}
    (tracks : tracking.Tracks processes standings) :
    standings.map Prod.fst = processes.map Process.call := by
  rcases tracks with ⟨participants, rfl, rfl⟩
  rw [List.map_map, List.map_map]
  rfl

/-- Whoever stands at a stage has a process that goes on from there as the discipline says. -/
theorem Tracks.getElem? {processes : List Process} {standings : List (ServiceCall × Stage)}
    (tracks : tracking.Tracks processes standings) {number : Nat} {call : ServiceCall}
    {stage : Stage} (stands : standings[number]? = some (call, stage)) :
    ∃ rest, processes[number]? = some ⟨call, rest⟩ ∧
      rest.Follows (tracking.discipline call) (tracking.fits call) stage := by
  rcases tracks with ⟨participants, rfl, rfl⟩
  rw [List.getElem?_map, Option.map_eq_some_iff] at stands
  rcases stands with ⟨⟨⟨_, rest⟩, _, follows⟩, found, same⟩
  cases same
  exact ⟨rest, by rw [List.getElem?_map, found]; rfl, follows⟩

theorem Tracks.stands {processes : List Process} {standings : List (ServiceCall × Stage)}
    (tracks : tracking.Tracks processes standings) {number : Nat} {process : Process}
    (found : processes[number]? = some process) :
    ∃ stage, standings[number]? = some (process.call, stage) ∧
      process.rest.Follows (tracking.discipline process.call) (tracking.fits process.call) stage := by
  rcases tracks with ⟨participants, rfl, rfl⟩
  rw [List.getElem?_map, Option.map_eq_some_iff] at found
  rcases found with ⟨participant, listed, rfl⟩
  exact ⟨participant.stage, by rw [List.getElem?_map, listed]; rfl, participant.follows⟩

theorem Tracks.of_process {processes : List Process} {standings : List (ServiceCall × Stage)}
    (tracks : tracking.Tracks processes standings) {process : Process}
    (member : process ∈ processes) :
    ∃ stage, (process.call, stage) ∈ standings ∧
      process.rest.Follows (tracking.discipline process.call) (tracking.fits process.call) stage := by
  rcases tracks with ⟨participants, rfl, rfl⟩
  rcases List.mem_map.mp member with ⟨participant, listed, rfl⟩
  exact ⟨participant.stage, List.mem_map.mpr ⟨participant, listed, rfl⟩, participant.follows⟩

theorem Tracks.of_standing {processes : List Process} {standings : List (ServiceCall × Stage)}
    (tracks : tracking.Tracks processes standings) {call : ServiceCall} {stage : Stage}
    (member : (call, stage) ∈ standings) :
    ∃ rest, ⟨call, rest⟩ ∈ processes ∧
      rest.Follows (tracking.discipline call) (tracking.fits call) stage := by
  rcases List.getElem?_of_mem member with ⟨number, stands⟩
  rcases tracks.getElem? stands with ⟨rest, found, follows⟩
  exact ⟨rest, List.mem_of_getElem? found, follows⟩

/-- Processes of a kind are at most as many as their stages weigh. -/
theorem Tracks.countP_le {processes : List Process} {standings : List (ServiceCall × Stage)}
    (tracks : tracking.Tracks processes standings) (kind : Process -> Bool)
    (weight : ServiceCall × Stage -> Nat)
    (weighs : forall process stage, (process.call, stage) ∈ standings ->
      process.rest.Follows (tracking.discipline process.call) (tracking.fits process.call) stage ->
      kind process = true -> 1 ≤ weight (process.call, stage)) :
    processes.countP kind ≤ (standings.map weight).sum := by
  rcases tracks with ⟨participants, rfl, rfl⟩
  induction participants with
  | nil => exact Nat.le_refl 0
  | cons participant others hypothesis =>
    have fewer :=
      hypothesis fun process stage member => weighs process stage (List.mem_cons_of_mem _ member)
    have first :=
      weighs participant.process participant.stage List.mem_cons_self participant.follows
    simp only [List.map_cons, List.countP_cons, List.sum_cons]
    split
    · next counted =>
      have := first counted
      omega
    · omega

/-- Processes of a kind are as many as the stages that show it. -/
theorem Tracks.countP_eq {processes : List Process} {standings : List (ServiceCall × Stage)}
    (tracks : tracking.Tracks processes standings) (kind : Process -> Bool)
    (shown : ServiceCall × Stage -> Bool)
    (agrees : forall process stage,
      process.rest.Follows (tracking.discipline process.call) (tracking.fits process.call) stage ->
      (kind process = true ↔ shown (process.call, stage) = true)) :
    processes.countP kind = standings.countP shown := by
  rcases tracks with ⟨participants, rfl, rfl⟩
  rw [List.countP_map, List.countP_map]
  exact List.countP_congr fun participant _ => agrees participant.process participant.stage participant.follows

theorem Tracks.begin {processes : List Process} {standings : List (ServiceCall × Stage)}
    (tracks : tracking.Tracks processes standings) (call : ServiceCall) :
    tracking.Tracks (processes ++ [Process.start service call]) (standings ++ [(call, tracking.start)]) := by
  rcases tracks with ⟨participants, rfl, rfl⟩
  refine ⟨participants ++ [⟨Process.start service call, tracking.start, tracking.follows call⟩], ?_,
    ?_⟩
  · rw [List.map_append, List.map_singleton]
  · rw [List.map_append, List.map_singleton]
    rfl

/-- A process at a stage goes on by one step. -/
private theorem tracks_proceed (world : World) (before after : List (Participant tracking))
    (participant : Participant tracking) (ending : Ending) :
    let system : System := ⟨world, (before ++ participant :: after).map Participant.process⟩
    ∃ later, tracking.Move system (.proceed before.length ending)
        ((before ++ participant :: after).map fun other => (other.process.call, other.stage))
        (participant.process.step ending world).2 later ∧
      tracking.Tracks (system.processes.set before.length (participant.process.step ending world).1) later := by
  intro system
  have moves : system.mover? (.proceed before.length ending) = some participant.process := by
    simp [system, System.mover?]
  have replaced (next : Participant tracking) :
      system.processes.set before.length next.process =
        (before ++ next :: after).map Participant.process := by
    simp [system]
  rcases participant with ⟨⟨call, rest⟩, stage, follows⟩
  cases rest with
  | done result =>
    refine ⟨_, .stayed ?_, _, replaced ⟨⟨call, .done result⟩, stage, follows⟩, ?_⟩
    · simp only [System.request?, moves]
      rfl
    · simp
  | clock next =>
    refine ⟨_, .stayed ?_, _, replaced ⟨⟨call, next world.now⟩, stage, follows.2 world.now⟩, ?_⟩
    · simp only [System.request?, moves]
      rfl
    · simp
  | draw count next =>
    rcases follows (world.entropy world.draws count) with ⟨later, drew, goesOn⟩
    refine ⟨_, ?_, _, replaced ⟨⟨call, next (world.entropy world.draws count)⟩, later, goesOn⟩, rfl⟩
    rw [List.map_append, List.map_append, List.map_cons, List.map_cons]
    refine .drew _ call stage later _ (world.entropy world.draws count) ?_ drew
    simp only [System.drawn?, moves]
    rfl
  | call patience request next =>
    rcases follows with ⟨allowed, goesOn⟩
    refine ⟨_, ?_, _, replaced ⟨⟨call, next (world.endCall request ending).1⟩, _, goesOn _⟩, rfl⟩
    rw [List.map_append, List.map_append, List.map_cons, List.map_cons]
    refine .called _ call stage _ request ending ?_ ?_ allowed
    · rw [List.length_map]
    · simp only [System.request?, moves]
      rfl

/-- An event does to tracked calls one of the listed things, and they stay tracked. -/
theorem tracks_step {system : System} {standings : List (ServiceCall × Stage)}
    (tracks : tracking.Tracks system.processes standings) (event : Event) :
    ∃ later, tracking.Move system event standings (system.step service event).world later ∧
      tracking.Tracks (system.step service event).processes later := by
  cases event with
  | «begin» call => exact ⟨_, .began call rfl, tracks.begin call⟩
  | setClock now => exact ⟨_, .clockSet now rfl, tracks⟩
  | proceed number ending =>
    cases found : system.processes[number]? with
    | none =>
      have same : system.step service (.proceed number ending) = system := by
        simp only [System.step, found]
      have unasked : system.request? (.proceed number ending) = none := by
        simp only [System.request?, System.mover?, found, Option.bind_none]
      rw [same]
      exact ⟨_, .stayed unasked, tracks⟩
    | some process =>
      rcases system with ⟨world, processes⟩
      rcases tracks with ⟨participants, rfl, rfl⟩
      have stepped : System.step service ⟨world, participants.map Participant.process⟩ (.proceed number ending) =
          ⟨(process.step ending world).2,
            (participants.map Participant.process).set number (process.step ending world).1⟩ := by
        simp only [System.step, found]
      rw [stepped]
      rw [List.getElem?_map, Option.map_eq_some_iff] at found
      rcases found with ⟨participant, found, rfl⟩
      rcases exists_append_of_getElem? found with ⟨before, after, rfl, rfl⟩
      exact tracks_proceed world before after participant ending

/-- What holds at the start and is broken by no move under a condition holds
after every run that meets the condition throughout.  It may tell of the
whole run so far. -/
theorem Tracks.run {condition : System -> Event -> Prop} {system : System}
    {standings : List (ServiceCall × Stage)} (tracks : tracking.Tracks system.processes standings)
    (holds : List Event -> List (ServiceCall × Stage) -> Prop)
    (kept : forall past event before later, condition (system.run service past) event ->
      tracking.Tracks (system.run service past).processes before ->
      tracking.Move (system.run service past) event before
        ((system.run service past).step service event).world later ->
      holds past before -> holds (past ++ [event]) later)
    {events : List Event} (always : system.Throughout service condition events)
    (start : holds [] standings) :
    ∃ final, tracking.Tracks (system.run service events).processes final ∧ holds events final := by
  induction events using List.reverseRecOn with
  | nil => exact ⟨standings, tracks, start⟩
  | append_singleton past event hypothesis =>
    rcases System.throughout_append.mp always with ⟨earlier, now, _⟩
    rcases hypothesis earlier with ⟨before, tracked, held⟩
    rcases tracks_step tracked event with ⟨later, move, after⟩
    rw [System.run_append]
    exact ⟨later, after, kept past event before later now tracked move held⟩

variable (tracking) in
/-- The calls of a run stand at stages, whatever happens. -/
theorem tracks_start (world : World) (events : List Event) :
    ∃ standings, tracking.Tracks ((System.start world).run service events).processes standings := by
  have always : (System.start world).Throughout service (fun _ _ => True) events :=
    System.throughout_of_forall_mem fun _ _ => trivial
  have nobody : tracking.Tracks (System.start world).processes [] := tracks_nil
  rcases nobody.run (fun _ _ => True) (fun _ _ _ _ _ _ _ _ => trivial) always trivial with ⟨final, tracks, _⟩
  exact ⟨final, tracks⟩

variable (tracking) in
/-- What holds at the start and is broken by no move under a condition holds
at the end of every run that meets the condition throughout. -/
theorem tracks_run {condition : System -> Event -> Prop}
    {invariant : List (ServiceCall × Bytes) -> World -> List (ServiceCall × Stage) -> Prop}
    (kept : forall past system event standings world later,
      condition system event -> tracking.Tracks system.processes standings ->
      tracking.Move system event standings world later -> invariant past system.world standings ->
      invariant (past ++ (system.drawn? event).toList) world later)
    {events : List Event} {system : System} {past : List (ServiceCall × Bytes)}
    {standings : List (ServiceCall × Stage)} (always : system.Throughout service condition events)
    (tracks : tracking.Tracks system.processes standings)
    (holds : invariant past system.world standings) :
    ∃ final, tracking.Tracks (system.run service events).processes final ∧
      invariant (past ++ system.draws service events) (system.run service events).world final := by
  refine tracks.run (fun earlier standings => invariant (past ++ system.draws service earlier)
    (system.run service earlier).world standings) ?_ always ?_
  · intro earlier event before later meets tracked move held
    rw [System.draws_append_singleton, ← List.append_assoc, System.run_append]
    exact kept _ _ event before _ later meets tracked move held
  · rw [System.draws, List.append_nil]
    exact holds

end Tracking

end SingleSignOn

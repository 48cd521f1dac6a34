import SingleSignOn.Proofs.Program.Interleaving

namespace SingleSignOn

/-!
# Programs in worlds that are known in part

A discipline tells what a program does whatever its store calls answer.  If
something is known of the worlds in which the program goes on, more can be
told: which of its branches it takes, and how it ends.  `Program.Keeps` folds
a discipline over a program for such worlds only, and `Conduct.runs_step` puts
the calls of a service that all begin with one such program side by side.
Whoever shows that each of them goes on only in the worlds that it expects
knows the stages of all of them.
-/

/-- The moves of a program between stages, the worlds in which it goes on and
the results that it ends with. -/
structure Conduct (Stage α : Type) where
  discipline : Discipline Stage
  /-- The worlds in which what is left of a program goes on at a stage. -/
  meets : Stage -> Program α -> World -> Prop
  fits : Stage -> α -> Prop

namespace Program

variable {Stage α : Type}

/-- A program keeps to a conduct from a stage on. -/
def Keeps (conduct : Conduct Stage α) : Program α -> Stage -> Prop
  | .done result, stage => conduct.fits stage result
  | .call patience request next, stage =>
    conduct.discipline.allows stage request ∧
      forall world, conduct.meets stage (.call patience request next) world ->
        (next (world.endCall request .carriedOut).1).Keeps conduct
          (conduct.discipline.replied stage request (world.endCall request .carriedOut).1)
  | .clock next, stage =>
    conduct.discipline.looks stage ∧
      forall world, conduct.meets stage (.clock next) world -> (next world.now).Keeps conduct stage
  | .draw _ next, stage =>
    forall bytes, ∃ after, conduct.discipline.drew stage bytes after ∧ (next bytes).Keeps conduct after

end Program

namespace Operation

variable {Stage α β : Type} {conduct : Conduct Stage (Except Error α)} {stage : Stage}

/-- An operation keeps to a conduct from a stage on. -/
def Keeps (conduct : Conduct Stage (Except Error α)) (operation : Operation α) (stage : Stage) : Prop :=
  Program.Keeps conduct operation.run stage

theorem keeps_call (patience : Nat) (request : StoreCall) (continuation : request.Reply -> Operation α)
    (allowed : conduct.discipline.allows stage request)
    (answered : forall world, conduct.meets stage (Operation.call patience request >>= continuation).run world ->
      ∃ value, (world.endCall request .carriedOut).1 = some (.ok value) ∧
        Keeps conduct (continuation value) (conduct.discipline.replied stage request (some (.ok value)))) :
    Keeps conduct (Operation.call patience request >>= continuation) stage := by
  refine And.intro allowed fun world met => ?_
  rcases answered world met with ⟨value, replied, keeps⟩
  rw [replied]
  exact keeps

theorem keeps_attempt (patience : Nat) (request : StoreCall)
    (continuation : Except Error request.Reply -> Operation α)
    (allowed : conduct.discipline.allows stage request)
    (answered : forall world,
      conduct.meets stage (Operation.attempt patience request >>= continuation).run world ->
      ∃ answer, (world.endCall request .carriedOut).1 = some answer ∧
        Keeps conduct (continuation answer) (conduct.discipline.replied stage request (some answer))) :
    Keeps conduct (Operation.attempt patience request >>= continuation) stage := by
  refine And.intro allowed fun world met => ?_
  rcases answered world met with ⟨answer, replied, keeps⟩
  rw [replied]
  exact keeps

theorem keeps_now (continuation : Instant -> Operation α) (looks : conduct.discipline.looks stage)
    (read : forall world, conduct.meets stage (ofProgram Program.now >>= continuation).run world ->
      Keeps conduct (continuation world.now) stage) :
    Keeps conduct (ofProgram Program.now >>= continuation) stage :=
  And.intro looks read

end Operation

/-! ## Many calls with one conduct -/

namespace Conduct

variable {Stage : Type} {call : ServiceCall} (conduct : Conduct Stage (Except Error call.Reply))

/-- What is left of a call, with the stage that it has reached. -/
structure Runner where
  rest : Program (Except Error call.Reply)
  stage : Stage
  keeps : rest.Keeps conduct stage

variable {conduct} in
/-- The call as a process. -/
def Runner.process (runner : Runner conduct) : Process := ⟨call, runner.rest⟩

/-- All processes are the same call, at stages that are told in order. -/
def Runs (processes : List Process) (stages : List Stage) : Prop :=
  ∃ runners : List (Runner conduct),
    processes = runners.map Runner.process ∧ stages = runners.map Runner.stage

/-- Whoever goes on at an event does so in a world that is expected. -/
def Expects (system : System) (event : Event) (stages : List Stage) : Prop :=
  forall number ending rest stage, event = .proceed number ending ->
    system.processes[number]? = some ⟨call, rest⟩ -> stages[number]? = some stage ->
    conduct.meets stage rest system.world

/-- What an event does to a system whose calls are all at stages. -/
inductive Move (start : Stage) (system : System) (event : Event) :
    List Stage -> World -> List Stage -> Prop where
  | began {stages : List Stage} : Move start system event stages system.world (stages ++ [start])
  | clockSet {stages : List Stage} (now : Instant) :
    Move start system event stages { system.world with now := now } stages
  | stayed {stages : List Stage} : Move start system event stages system.world stages
  | drew (before : List Stage) (stage later : Stage) (after : List Stage) (bytes : Bytes)
      (drawn : system.drawn? event = some (call, bytes)) (moved : conduct.discipline.drew stage bytes later) :
    Move start system event (before ++ stage :: after)
      { system.world with draws := system.world.draws + 1 } (before ++ later :: after)
  | called (before : List Stage) (stage : Stage) (after : List Stage) (request : StoreCall)
      (allowed : conduct.discipline.allows stage request) :
    Move start system event (before ++ stage :: after) (system.world.endCall request .carriedOut).2
      (before ++ conduct.discipline.replied stage request (system.world.endCall request .carriedOut).1 :: after)

variable {conduct}

/-- One of the calls goes on by one step. -/
private theorem runs_proceed {start : Stage} (world : World) (before after : List (Runner conduct))
    (runner : Runner conduct) (met : conduct.meets runner.stage runner.rest world) :
    let system : System := ⟨world, (before ++ runner :: after).map Runner.process⟩
    ∃ later, conduct.Move start system (.proceed before.length .carriedOut)
        ((before ++ runner :: after).map Runner.stage) (runner.process.step .carriedOut world).2 later ∧
      conduct.Runs (system.processes.set before.length (runner.process.step .carriedOut world).1) later := by
  intro system
  have moves : system.mover? (.proceed before.length .carriedOut) = some runner.process := by
    simp [system, System.mover?]
  have replaced (next : Runner conduct) : system.processes.set before.length next.process =
      (before ++ next :: after).map Runner.process := by
    simp [system]
  rcases runner with ⟨rest, stage, keeps⟩
  cases rest with
  | done result => exact ⟨_, .stayed, _, replaced ⟨.done result, stage, keeps⟩, by simp⟩
  | clock next => exact ⟨_, .stayed, _, replaced ⟨next world.now, stage, keeps.2 world met⟩, by simp⟩
  | draw count next =>
    rcases keeps (world.entropy world.draws count) with ⟨later, drew, goesOn⟩
    refine ⟨_, ?_, _, replaced ⟨next (world.entropy world.draws count), later, goesOn⟩, rfl⟩
    rw [List.map_append, List.map_append, List.map_cons, List.map_cons]
    refine .drew _ stage later _ (world.entropy world.draws count) ?_ drew
    simp only [System.drawn?, moves]
    rfl
  | call patience request next =>
    refine ⟨_, ?_, _, replaced ⟨next (world.endCall request .carriedOut).1, _, keeps.2 world met⟩, rfl⟩
    rw [List.map_append, List.map_append, List.map_cons, List.map_cons]
    exact .called _ stage _ request keeps.1

/-- An event under which nobody is surprised does one of the listed things. -/
theorem runs_step {service : Service} {start : Stage} (opens : (service.program call).Keeps conduct start)
    {system : System} {event : Event} {stages : List Stage} (runs : conduct.Runs system.processes stages)
    (smooth : event.IsSmooth) (begins : ∀ begun ∈ event.begun?, begun = call)
    (expects : conduct.Expects system event stages) :
    ∃ later, conduct.Move start system event stages (system.step service event).world later ∧
      conduct.Runs (system.step service event).processes later := by
  rcases runs with ⟨runners, listed, rfl⟩
  cases event with
  | «begin» begun =>
    cases begins begun rfl
    refine ⟨_, .began, runners ++ [⟨service.program call, start, opens⟩], ?_, ?_⟩
    · rw [List.map_append, ← listed]
      rfl
    · rw [List.map_append]
      rfl
  | setClock now => exact ⟨_, .clockSet now, runners, listed, rfl⟩
  | proceed number ending =>
    cases smooth
    cases found : system.processes[number]? with
    | none =>
      have same : system.step service (.proceed number .carriedOut) = system := by
        simp only [System.step, found]
      rw [same]
      exact ⟨_, .stayed, runners, listed, rfl⟩
    | some process =>
      rcases system with ⟨world, processes⟩
      subst listed
      have stepped : System.step service ⟨world, runners.map Runner.process⟩ (.proceed number .carriedOut) =
          ⟨(process.step .carriedOut world).2,
            (runners.map Runner.process).set number (process.step .carriedOut world).1⟩ := by
        simp only [System.step, found]
      rw [stepped]
      have placed := found
      rw [List.getElem?_map, Option.map_eq_some_iff] at found
      rcases found with ⟨runner, found, rfl⟩
      have met := expects number _ runner.rest runner.stage rfl placed (by rw [List.getElem?_map, found]; rfl)
      rcases exists_append_of_getElem? found with ⟨before, after, rfl, rfl⟩
      exact runs_proceed world before after runner met

/-- What holds at the start, leaves nobody surprised and is broken by no move
of a run holds at its end.  It may tell of the whole run so far. -/
theorem run {service : Service} {start : Stage} (opens : (service.program call).Keeps conduct start)
    {system : System} (idle : system.processes = []) {events : List Event}
    (orderly : ∀ event ∈ events, event.IsSmooth ∧ ∀ begun ∈ event.begun?, begun = call)
    (holds : List Event -> World -> List Stage -> Prop) (begins : holds [] system.world [])
    (expects : forall past event rest stages, events = past ++ event :: rest ->
      holds past (system.run service past).world stages -> conduct.Expects (system.run service past) event stages)
    (kept : forall past event rest before world later, events = past ++ event :: rest ->
      conduct.Move start (system.run service past) event before world later ->
      holds past (system.run service past).world before -> holds (past ++ [event]) world later) :
    ∃ stages, conduct.Runs (system.run service events).processes stages ∧
      holds events (system.run service events).world stages := by
  have far (past rest : List Event) (told : events = past ++ rest) :
      ∃ stages, conduct.Runs (system.run service past).processes stages ∧
        holds past (system.run service past).world stages := by
    induction past using List.reverseRecOn generalizing rest with
    | nil => exact ⟨[], ⟨[], idle, rfl⟩, begins⟩
    | append_singleton past event hypothesis =>
      rw [← List.append_cons] at told
      rcases hypothesis (event :: rest) told with ⟨before, runs, held⟩
      have member : event ∈ events := told ▸ List.mem_append_right _ List.mem_cons_self
      rcases runs_step opens runs (orderly event member).1 (orderly event member).2
        (expects past event rest before told held) with ⟨later, move, after⟩
      rw [System.run_append]
      exact ⟨later, after, kept past event rest before _ later told move held⟩
  exact far events [] (List.append_nil events).symm

end Conduct

end SingleSignOn

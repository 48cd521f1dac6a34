import SingleSignOn.Proofs.Service.SweeperWorker
import SingleSignOn.Service.SweeperRun

namespace SingleSignOn.Service.Sweeper

/-!
# What is observed of the sweeper

Over a stretch of time the clock moves along, and the loop takes a tick
whenever one is due and it is free.  This is one of the runs of the worker, so
what holds of every run holds of what is observed.
-/

namespace Worker

/-- The worker is where a stretch of time has brought the loop, over the same world. -/
structure Shows (worker : Worker) (sweeps : Nat) (loop : Loop) (site : Site) : Prop where
  memory : site.backend = .memory
  loop_eq : worker.loop = loop
  world_eq : worker.world = site.trial.world
  started_eq : worker.started = sweeps

/-- A tick and the whole sweep after it. -/
theorem run_sweep (service : Service) {worker : Worker} (waits : worker.loop.phase = .waiting) (now : Instant)
    (ending : Ending) :
    let world := { worker.world with now := now }
    let final := worker.run service [.clock now, .tick, .proceed .carriedOut, .proceed ending]
    final.loop = { worker.loop with phase := Phase.sweeping }.step .swept ∧
      final.world = (world.endCall (.tokens (.deleteExpired now)) ending).2 ∧
      final.started = worker.started + 1 := by
  let moved := worker.step service (.clock now)
  have begins := step_tick_of_waiting service (show moved.loop.phase = .waiting from waits)
  unfold run
  rw [List.foldl_cons, List.foldl_cons, begins]
  cases ending <;> exact ⟨rfl, rfl, rfl⟩

/-- A tick and the beginning of a sweep. -/
theorem run_tick (service : Service) {worker : Worker} (waits : worker.loop.phase = .waiting) (now : Instant) :
    let final := worker.run service [.clock now, .tick]
    final.loop = { worker.loop with phase := Phase.sweeping } ∧
      final.world = { worker.world with now := now } ∧ final.started = worker.started + 1 := by
  let moved := worker.step service (.clock now)
  have begins := step_tick_of_waiting service (show moved.loop.phase = .waiting from waits)
  unfold run
  rw [List.foldl_cons, List.foldl_cons, begins]
  exact ⟨rfl, rfl, rfl⟩

end Worker

/-- A tick that starts a sweep was waited for. -/
theorem Loop.waiting_of_step_tick {loop : Loop} (idle : loop.phase ≠ .sweeping)
    (begins : ¬(loop.step .tick).phase ≠ .sweeping) : loop.phase = .waiting := by
  refine Decidable.byContradiction fun other => ?_
  unfold Loop.step at begins
  dsimp only at begins
  rw [if_neg other] at begins
  exact begins idle

/-- A loop does not start with a sweep. -/
theorem Loop.start_ne_sweeping (interval : Nat) (flag : Bool) : (Loop.start interval flag).phase ≠ .sweeping := by
  unfold Loop.start Loop.beforeWait
  dsimp only
  split
  · exact nofun
  · split <;> exact nofun

/-- A call with limited patience goes on from its reply, or from its being given up. -/
theorem exists_bounded (patience : Nat) (request : StoreCall) :
    ∃ next, Program.bounded patience request = .call (some patience) request next ∧
      next none = .done (.error .timeout) ∧ forall answer, next (some answer) = .done answer :=
  ⟨_, rfl, rfl, fun _ => rfl⟩

/-- A sweep in memory that is watched for a while: its store call has begun, or it has ended. -/
theorem timedUntil_sweep (service : Service) {site : Site} (memory : site.backend = .memory) (deadline time : Nat) :
    ∃ ending begun, begun.world = site.trial.world ∧
      (Site.timedUntil deadline time service.sweep.run site = (none, { site with trial := begun }) ∨
        ∃ ended, Site.timedUntil deadline time service.sweep.run site = (some ended,
          { site with trial := (begun.endCall (.tokens (.deleteExpired site.trial.world.now)) ending).2 })) := by
  rcases site with ⟨backend, trial, script⟩
  subst memory
  let request : StoreCall := .tokens (.deleteExpired trial.world.now)
  let started := trial.beginCall (some service.auth.storeTimeout) request
  rcases exists_bounded service.auth.storeTimeout request with ⟨next, calls, silent, answered⟩
  have taken : Site.timedUntil deadline time service.sweep.run ⟨.memory, trial, script⟩ =
      if deadline < time + started.1.wait then (none, ⟨.memory, started.2, script⟩)
      else Site.timedUntil deadline (time + started.1.wait)
        (next (started.2.endCall request started.1.ending).1)
        ⟨.memory, (started.2.endCall request started.1.ending).2, script⟩ := by
    have begins : Site.timedUntil deadline time service.sweep.run ⟨.memory, trial, script⟩ =
        Site.timedUntil deadline time (Program.bounded service.auth.storeTimeout request)
          ⟨.memory, trial, script⟩ := rfl
    rw [begins, calls]
    rfl
  exists started.1.ending, started.2
  constructor
  · rfl
  · rw [taken]
    split
    · exact .inl rfl
    · right
      cases (started.2.endCall request started.1.ending).1 with
      | none =>
        rw [silent]
        exact ⟨_, rfl⟩
      | some answer =>
        rw [answered]
        exact ⟨_, rfl⟩

/-- The instant that lies a time in milliseconds after the start of a stretch, to the second. -/
def instantAt (start : Instant) (time : Nat) : Instant :=
  ⟨start.nanoseconds + (time / 1000 : Nat) * Instant.perSecond⟩

/-- The sweep that begins at an instant of a stretch of time. -/
def sweepAt (service : Service) (start : Instant) (finish time : Nat) (site : Site) : Option Nat × Site :=
  let (ended, after) := (site.setClock (instantAt start time)).timedUntil finish time service.sweep.run
  (ended.map Prod.snd, after)

/-- A sweep of a stretch of time is left unfinished, with nothing done, or it has made its store call. -/
theorem sweepAt_cases (service : Service) (start : Instant) (finish time : Nat) {site : Site}
    (memory : site.backend = .memory) :
    let now := instantAt start time
    let world := { site.trial.world with now := now }
    ∃ ended after, sweepAt service start finish time site = (ended, after) ∧ after.backend = .memory ∧
      ((ended = none ∧ after.trial.world = world) ∨
        ∃ instant ending, ended = some instant ∧
          after.trial.world = (world.endCall (.tokens (.deleteExpired now)) ending).2) := by
  unfold sweepAt
  dsimp only
  rcases timedUntil_sweep service (show (site.setClock (instantAt start time)).backend = .memory from memory) finish
    time with ⟨ending, begun, same, unfinished | ⟨ended, finished⟩⟩
  · rw [unfinished]
    exact ⟨_, _, rfl, memory, .inl ⟨rfl, same⟩⟩
  · rw [finished]
    refine ⟨_, _, rfl, memory, .inr ⟨ended.2, ending, rfl, ?_⟩⟩
    exact congrArg (fun world => (World.endCall world (.tokens (.deleteExpired (instantAt start time))) ending).2) same

namespace Worker

/-- The loop over ticks in a row is a run of the worker, in which others do nothing. -/
theorem Shows.sweepTicks (service : Service) (start : Instant) (finish : Nat) (ticks : List Nat) (free : Nat)
    {sweeps : Nat} {loop : Loop} {site : Site} {worker : Worker} (shows : worker.Shows sweeps loop site)
    (idle : loop.phase ≠ .sweeping) :
    let watched := Sweeper.sweepTicks (sweepAt service start finish) finish ticks free sweeps loop site
    ∃ events, (forall world, .elsewhere world ∉ events) ∧
      (worker.run service events).Shows watched.1 watched.2.1 watched.2.2 := by
  induction ticks generalizing free sweeps loop site worker with
  | nil => exact ⟨[], fun _ => List.not_mem_nil, shows⟩
  | cons tick ticks hypothesis =>
    unfold Sweeper.sweepTicks
    dsimp only
    split
    · exact ⟨[], fun _ => List.not_mem_nil, shows⟩
    · next goesOn =>
      rcases shows with ⟨memory, rfl, here, rfl⟩
      have waits : worker.loop.phase = .waiting := Loop.waiting_of_step_tick idle (not_or.mp goesOn).2
      rw [Loop.step_tick_of_waiting waits]
      let now := instantAt start (max tick free)
      rcases sweepAt_cases service start finish (max tick free) memory with
        ⟨_, after, watched, memory, ⟨rfl, left⟩ | ⟨ended, ending, rfl, swept⟩⟩
      · rw [watched]
        rcases run_tick service waits now with ⟨loop, world, started⟩
        rw [here, ← left] at world
        have alone (world : World) : .elsewhere world ∉ [Event.clock now, .tick] := by
          simp only [List.mem_cons, reduceCtorEq, List.not_mem_nil, or_self, not_false_eq_true]
        exact ⟨_, alone, memory, loop, world, started⟩
      · rw [watched]
        let sweep : List Event := [.clock now, .tick, .proceed .carriedOut, .proceed ending]
        rcases run_sweep service waits now ending with ⟨loop, world, started⟩
        rw [here, ← swept] at world
        have shown : (worker.run service sweep).Shows (worker.started + 1)
            ({ worker.loop with phase := Phase.sweeping }.step .swept) after :=
          ⟨memory, loop, world, started⟩
        rcases hypothesis ended shown (Loop.step_swept_ne_sweeping rfl) with ⟨events, others, shows⟩
        rw [← run_append] at shows
        have alone (world : World) : .elsewhere world ∉ sweep := by
          simp only [sweep, List.mem_cons, reduceCtorEq, List.not_mem_nil, or_self, not_false_eq_true]
        exact ⟨_, fun world => List.not_mem_append (alone world) (others world), shows⟩

/-- What the worker hears when it is told to stop. -/
def told : Stop -> List Event
  | .signal => [.set true, .noticed]
  | .falseAlarm => [.set false, .noticed, .set true, .noticed]
  | .abandonment => [.abandon, .noticed]
  | .before => []
  | .never => []

theorem not_mem_told {world : World} (stop : Stop) : .elsewhere world ∉ told stop := by
  cases stop <;> simp only [told, List.mem_cons, reduceCtorEq, List.not_mem_nil, or_self, not_false_eq_true]

theorem run_told (service : Service) (worker : Worker) (stop : Stop) :
    (worker.run service (told stop)).loop = worker.loop.toldTo stop ∧
      (worker.run service (told stop)).world = worker.world ∧
      (worker.run service (told stop)).started = worker.started := by
  cases stop <;> exact ⟨rfl, rfl, rfl⟩

end Worker

/-- What is observed of the sweeper over a stretch of time is a run of the worker, in which others do nothing. -/
theorem exists_run_of_observe (service : Service) (interval duration : Nat) (stop : Stop) {site : Site}
    (memory : site.backend = .memory) :
    ∃ events, (forall world, .elsewhere world ∉ events) ∧
      let final := (Worker.start interval (stop = .before) site.trial.world).run service events
      let (seen, after) := observe service interval duration stop site
      final.started = seen.sweeps ∧ final.world = after.trial.world ∧
        (final.loop.phase = .stopped ↔ seen.stopped = true) := by
  let start := site.trial.world.now
  let finish := duration * 1000
  let loop := Loop.start interval (stop = .before)
  let ticks := if interval = 0 then [] else (List.range (duration / interval + 1)).map (· * interval * 1000)
  let watched := sweepTicks (sweepAt service start finish) finish ticks 0 0 loop site
  let final : Instant := ⟨start.nanoseconds + (duration : Int) * Instant.perSecond⟩
  have seen : observe service interval duration stop site =
      (⟨watched.1, watched.2.1.phase = .stopped, (watched.2.1.toldTo stop).phase = .stopped⟩,
        watched.2.2.setClock final) := rfl
  have shows : (Worker.start interval (stop = .before) site.trial.world).Shows 0 loop site := ⟨memory, rfl, rfl, rfl⟩
  have idle : loop.phase ≠ .sweeping := Loop.start_ne_sweeping interval (stop = .before)
  rcases Worker.Shows.sweepTicks service start finish ticks 0 shows idle with ⟨events, alone, after⟩
  rw [seen]
  rcases Worker.run_told service ((Worker.start interval (stop = .before) site.trial.world).run service events) stop
    with ⟨loop, world, started⟩
  exists events ++ (Worker.told stop ++ [.clock final])
  rw [Worker.run_append, Worker.run_append]
  refine ⟨fun other => ?_, started.trans after.started_eq, ?_, ?_⟩
  · have last : Event.elsewhere other ∉ [Event.clock final] := by
      simp only [List.mem_cons, reduceCtorEq, List.not_mem_nil, or_self, not_false_eq_true]
    exact List.not_mem_append (alone other) (List.not_mem_append (Worker.not_mem_told stop) last)
  · exact congrArg (fun world : World => { world with now := final }) (world.trans after.world_eq)
  · rw [decide_eq_true_iff, ← after.loop_eq, ← loop]
    exact Iff.rfl

end SingleSignOn.Service.Sweeper

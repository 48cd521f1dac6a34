import SingleSignOn.Proofs.Service.Exchange
import SingleSignOn.Proofs.Store.TokenCalls
import SingleSignOn.Service.SweeperWorker

namespace SingleSignOn

/-!
# The sweeper survives failures and stops

What a sweep has come to is of no account to the loop: it goes on after a
failure as after a success, and ends only while it is told to.  Once it is told
to, it may take one more tick that was due at the same time, and no more.
-/

/-- A removal reports how many tokens the condition holds of. -/
theorem TokenStore.count_deleteWhere (store : TokenStore) (condition : RefreshToken -> Bool) :
    (store.deleteWhere condition).1 = store.tokens.toList.countP fun entry => condition entry.2 := by
  have parts := List.length_eq_countP_add_countP (l := store.tokens.toList)
    fun entry : String × RefreshToken => condition entry.2
  have kept : (store.tokens.filter fun _ token => !condition token).size =
      store.tokens.toList.countP fun entry => ¬condition entry.2 := by
    rw [← Std.ExtTreeMap.length_toList, Std.ExtTreeMap.toList_filter, List.countP_eq_length_filter]
    simp only [Bool.not_eq_true, Bool.decide_eq_false]
  change store.tokens.size - (store.tokens.filter fun _ token => !condition token).size = _
  rw [kept, ← Std.ExtTreeMap.length_toList]
  omega

namespace Service.Sweeper

variable {service : Service}

/-! ## One sweep -/

/-- What a sweep that has ended has come to.  It made one store call, as of the
instant at which it looked at the clock.  If it failed, the stores are as they
were; otherwise it removed exactly the tokens that had expired by then, and
counted them. -/
def Attempt.CameTo (attempt : Attempt) (outcome : Except Error Nat) : Prop :=
  ∃ (asOf : Instant) (before after : Stores), attempt.looked = [asOf] ∧
    attempt.made = [⟨.tokens (.deleteExpired asOf), before, after⟩] ∧
    match outcome with
    | .error _ => after = before
    | .ok count => after.credentials = before.credentials ∧
        (forall digest : String, after.tokens.tokens[digest]? =
          before.tokens.tokens[digest]?.filter fun record => !record.isExpiredAt asOf) ∧
        count = before.tokens.tokens.toList.countP fun entry => entry.2.isExpiredAt asOf

/-- Where a sweep that has not ended can stand. -/
inductive Attempt.Stands (service : Service) : Attempt -> Prop
  | begun : Stands service (.start service)
  | looked (asOf : Instant) : Stands service ⟨(service.tokens (.deleteExpired asOf)).run, [asOf], []⟩

namespace Attempt.Stands

variable {attempt : Attempt} (stands : attempt.Stands service) {ending : Ending} {world : World}

include stands

/-- A step of a sweep that does not end it leads to its store call. -/
theorem step (unfinished : (attempt.step ending world).1.rest.result? = none) :
    (attempt.step ending world).1.Stands service := by
  cases stands with
  | begun => exact .looked world.now
  | looked asOf => cases ending <;> cases unfinished

/-- A step that ends a sweep carries its store call out, or fails and does nothing. -/
theorem cameTo (counted : ending ≠ .miscounted) {outcome : Except Error Nat}
    (finished : (attempt.step ending world).1.rest.result? = some outcome) :
    (attempt.step ending world).1.CameTo outcome := by
  cases stands with
  | begun => cases finished
  | looked asOf =>
    cases ending with
    | miscounted => exact absurd rfl counted
    | refused error =>
      cases finished
      exact ⟨asOf, world.stores, world.stores, rfl, rfl, rfl⟩
    | givenUp =>
      cases finished
      exact ⟨asOf, world.stores, world.stores, rfl, rfl, rfl⟩
    | carriedOut =>
      let expired (record : RefreshToken) : Bool := record.isExpiredAt asOf
      cases finished
      exact ⟨asOf, world.stores, _, rfl, rfl, rfl, world.stores.tokens.getElem?_deleteWhere expired,
        world.stores.tokens.count_deleteWhere expired⟩

end Attempt.Stands

/-! ## The loop -/

namespace Loop

variable {loop : Loop} {occurrence : Occurrence}

/-- The loop ends only where it sees that the flag is set or that nobody is left to set it. -/
theorem asked_of_stopped (stopped : (loop.step occurrence).phase = .stopped) :
    loop.phase = .stopped ∨ loop.flag = true ∨ loop.abandoned = true := by
  rcases loop with ⟨phase, flag, unseen, abandoned⟩
  cases occurrence <;> cases phase <;> cases flag <;> cases unseen <;> cases abandoned <;>
    first | exact .inl rfl | exact .inr (.inl rfl) | exact .inr (.inr rfl) | cases stopped

/-- The flag is what it was set to last. -/
theorem flag_step : (loop.step occurrence).flag = match occurrence with | .set flag => flag | _ => loop.flag := by
  cases occurrence with
  | set flag => rfl
  | abandon => rfl
  | _ =>
    unfold step beforeWait
    dsimp only
    repeat' split
    all_goals rfl

theorem abandoned_step :
    (loop.step occurrence).abandoned = match occurrence with | .abandon => true | _ => loop.abandoned := by
  cases occurrence with
  | set flag => rfl
  | abandon => rfl
  | _ =>
    unfold step beforeWait
    dsimp only
    repeat' split
    all_goals rfl

/-- With the flag set, the loop does not come to wait again. -/
theorem waiting_of_step (set : loop.flag = true) (waits : (loop.step occurrence).phase = .waiting) :
    loop.phase = .waiting := by
  rcases loop with ⟨phase, flag, unseen, abandoned⟩
  subst set
  cases occurrence <;> cases phase <;> cases unseen <;> cases abandoned <;> first | rfl | cases waits

theorem step_tick_of_waiting (waits : loop.phase = .waiting) :
    loop.step .tick = { loop with phase := .sweeping } := by
  unfold step
  dsimp only
  rw [if_pos waits]

/-- With the end of a sweep the loop ends if the flag is set, and otherwise waits again. -/
theorem phase_step_swept (sweeps : loop.phase = .sweeping) :
    (loop.step .swept).phase = if loop.flag then .stopped else .waiting := by
  unfold step beforeWait
  dsimp only
  rw [if_pos sweeps]

theorem step_swept_ne_sweeping (sweeps : loop.phase = .sweeping) : (loop.step .swept).phase ≠ .sweeping := by
  rw [phase_step_swept sweeps]
  split
  · exact nofun
  · exact nofun

/-- A sweep begins by a tick and ends as such, and by nothing else. -/
theorem sweeping_step (tick : occurrence ≠ .tick) (swept : occurrence ≠ .swept) :
    (loop.step occurrence).phase = .sweeping ↔ loop.phase = .sweeping := by
  rcases loop with ⟨phase, flag, unseen, abandoned⟩
  cases occurrence with
  | tick => exact absurd rfl tick
  | swept => exact absurd rfl swept
  | noticed => cases phase <;> cases flag <;> cases unseen <;> cases abandoned <;> decide
  | set value => exact Iff.rfl
  | abandon => exact Iff.rfl

/-- A loop that has ended has ended for good. -/
theorem stopped_step (stopped : loop.phase = .stopped) : (loop.step occurrence).phase = .stopped := by
  cases occurrence with
  | set flag => exact stopped
  | abandon => exact stopped
  | _ =>
    unfold step
    simp only [stopped, reduceCtorEq, if_false]

end Loop

/-! ## The worker -/

namespace Event

variable {event : Event} {flag : Bool}

theorem flagAfter_of_ne (other : forall value, event ≠ .set value) : event.flagAfter flag = flag := by
  cases event with
  | set value => exact absurd rfl (other value)
  | _ => rfl

theorem flagAfter_true (stays : event ≠ .set false) : event.flagAfter true = true := by
  cases event with
  | set value =>
    cases value with
    | true => rfl
    | false => exact absurd rfl stays
  | _ => rfl

end Event

namespace Worker

/-- A tick that the loop waits for starts a sweep. -/
theorem step_tick_of_waiting (service : Service) {worker : Worker} (waits : worker.loop.phase = .waiting) :
    worker.step service .tick =
      ⟨{ worker.loop with phase := .sweeping }, worker.world, some (.start service), worker.ended,
        worker.started + 1⟩ := by
  unfold step occur
  dsimp only
  rw [if_pos waits, Loop.step_tick_of_waiting waits]

/-- With a sweep under way it goes on, or it ends and the loop hears of its end. -/
theorem step_proceed_cases (worker : Worker) (service : Service) (ending : Ending) :
    worker.step service (.proceed ending) = worker ∨ ∃ attempt, worker.underWay = some attempt ∧
      let after := attempt.step ending worker.world
      ((after.1.rest.result? = none ∧
        worker.step service (.proceed ending) = { worker with world := after.2, underWay := some after.1 }) ∨
        ∃ outcome, after.1.rest.result? = some outcome ∧
          worker.step service (.proceed ending) =
            { worker.occur .swept with
              world := after.2, underWay := none, ended := (after.1, outcome) :: worker.ended }) := by
  unfold step
  dsimp only
  cases worker.underWay with
  | none => exact .inl rfl
  | some attempt =>
    refine .inr ⟨attempt, rfl, ?_⟩
    dsimp only
    cases finished : (attempt.step ending worker.world).1.rest.result? with
    | none => exact .inl ⟨rfl, rfl⟩
    | some outcome => exact .inr ⟨outcome, rfl, rfl⟩

theorem run_append (worker : Worker) (first second : List Event) :
    worker.run service (first ++ second) = (worker.run service first).run service second :=
  List.foldl_append

/-- To the loop an event is an occurrence of the same name, or none that it hears of. -/
theorem loop_step_cases (worker : Worker) (service : Service) (event : Event) :
    ((worker.step service event).loop = worker.loop ∧ (forall flag, event ≠ .set flag) ∧ event ≠ .abandon) ∨
      ∃ occurrence, (worker.step service event).loop = worker.loop.step occurrence ∧
        (forall flag, occurrence = .set flag ↔ event = .set flag) ∧
        (occurrence = .abandon ↔ event = .abandon) := by
  cases event with
  | tick =>
    right
    exists .tick
    unfold step
    dsimp only
    split
    · exact ⟨rfl, fun _ => ⟨nofun, nofun⟩, nofun, nofun⟩
    · exact ⟨rfl, fun _ => ⟨nofun, nofun⟩, nofun, nofun⟩
  | proceed ending =>
    rcases worker.step_proceed_cases service ending with same | ⟨attempt, _, ⟨_, same⟩ | ⟨outcome, _, same⟩⟩
    · rw [same]
      exact .inl ⟨rfl, nofun, nofun⟩
    · rw [same]
      exact .inl ⟨rfl, nofun, nofun⟩
    · rw [same]
      exact .inr ⟨.swept, rfl, fun _ => ⟨nofun, nofun⟩, nofun, nofun⟩
  | noticed => exact .inr ⟨.noticed, rfl, fun _ => ⟨nofun, nofun⟩, nofun, nofun⟩
  | set value =>
    right
    exists .set value
    refine ⟨rfl, fun flag => ⟨?_, ?_⟩, nofun, nofun⟩
    · rintro ⟨⟩
      rfl
    · rintro ⟨⟩
      rfl
  | abandon => exact .inr ⟨.abandon, rfl, fun _ => ⟨nofun, nofun⟩, fun _ => rfl, fun _ => rfl⟩
  | clock now => exact .inl ⟨rfl, nofun, nofun⟩
  | elsewhere world => exact .inl ⟨rfl, nofun, nofun⟩

/-- The flag is what the event sets it to, or stays. -/
theorem flag_step (worker : Worker) (service : Service) (event : Event) :
    (worker.step service event).loop.flag = event.flagAfter worker.loop.flag := by
  rcases worker.loop_step_cases service event with ⟨same, other, _⟩ | ⟨occurrence, same, sets, _⟩
  · rw [same, Event.flagAfter_of_ne other]
  · rw [same, Loop.flag_step]
    cases occurrence with
    | set flag =>
      rw [(sets flag).mp rfl]
      rfl
    | _ => exact (Event.flagAfter_of_ne fun value called => nomatch (sets value).mpr called).symm

theorem flag_run (worker : Worker) (service : Service) (events : List Event) :
    (worker.run service events).loop.flag = flagAfter worker.loop.flag events := by
  induction events generalizing worker with
  | nil => rfl
  | cons event later hypothesis =>
    apply (hypothesis (worker.step service event)).trans
    rw [flag_step]
    rfl

theorem abandoned_of_step {worker : Worker} {event : Event}
    (abandoned : (worker.step service event).loop.abandoned = true) :
    worker.loop.abandoned = true ∨ event = .abandon := by
  rcases worker.loop_step_cases service event with ⟨same, _⟩ | ⟨occurrence, same, _, abandons⟩
  · rw [same] at abandoned
    exact .inl abandoned
  · rw [same, Loop.abandoned_step] at abandoned
    cases occurrence with
    | abandon => exact .inr (abandons.mp rfl)
    | _ => exact .inl abandoned

theorem abandoned_of_run {worker : Worker} {events : List Event}
    (abandoned : (worker.run service events).loop.abandoned = true) :
    worker.loop.abandoned = true ∨ .abandon ∈ events := by
  induction events generalizing worker with
  | nil => exact .inl abandoned
  | cons event later hypothesis =>
    rcases hypothesis abandoned with between | later
    · rcases abandoned_of_step between with before | rfl
      · exact .inl before
      · exact .inr List.mem_cons_self
    · exact .inr (List.mem_cons_of_mem event later)

/-- The loop ends only while the flag is set or nobody is left to set it. -/
theorem asked_of_step {worker : Worker} {event : Event} (runs : worker.loop.phase ≠ .stopped)
    (ends : (worker.step service event).loop.phase = .stopped) :
    worker.loop.flag = true ∨ worker.loop.abandoned = true := by
  rcases worker.loop_step_cases service event with ⟨same, _⟩ | ⟨occurrence, same, _⟩
  · rw [same] at ends
    exact absurd ends runs
  · rw [same] at ends
    exact (Loop.asked_of_stopped ends).resolve_left runs

/-- A run in which the loop ends, taken apart at the event with which it ends. -/
theorem exists_end_of_stopped {worker : Worker} {events : List Event} (runs : worker.loop.phase ≠ .stopped)
    (stopped : (worker.run service events).loop.phase = .stopped) :
    ∃ earlier event later, events = earlier ++ event :: later ∧
      (worker.run service earlier).loop.phase ≠ .stopped ∧
      ((worker.run service earlier).step service event).loop.phase = .stopped := by
  induction events generalizing worker with
  | nil => exact absurd stopped runs
  | cons event later hypothesis =>
    by_cases ends : (worker.step service event).loop.phase = .stopped
    · exact ⟨[], event, later, rfl, runs, ends⟩
    · rcases hypothesis ends stopped with ⟨earlier, last, rest, rfl, before, after⟩
      exact ⟨event :: earlier, last, rest, rfl, before, after⟩

/-- The sweeps that were started, and the one that the loop may start next. -/
def startable (worker : Worker) : Nat :=
  worker.started + if worker.loop.phase = .waiting then 1 else 0

/-- A sweep is started by a tick that the loop waits for, and by nothing else. -/
theorem started_step_cases (worker : Worker) (service : Service) (event : Event) :
    (worker.step service event).started = worker.started ∨
      (worker.loop.phase = .waiting ∧ (worker.step service event).loop.phase = .sweeping ∧
        (worker.step service event).started = worker.started + 1) := by
  cases event with
  | tick =>
    by_cases waits : worker.loop.phase = .waiting
    · rw [step_tick_of_waiting service waits]
      exact .inr ⟨waits, rfl, rfl⟩
    · left
      unfold step
      dsimp only
      rw [if_neg waits]
      rfl
  | proceed ending =>
    left
    rcases worker.step_proceed_cases service ending with same | ⟨attempt, _, ⟨_, same⟩ | ⟨outcome, _, same⟩⟩
    · rw [same]
    · rw [same]
    · rw [same]
      rfl
  | _ => exact .inl rfl

/-- While the flag is set, the sweep that the loop may start next is the last one. -/
theorem startable_step_le {worker : Worker} (set : worker.loop.flag = true) (event : Event) :
    (worker.step service event).startable ≤ worker.startable := by
  unfold startable
  rcases worker.started_step_cases service event with same | ⟨waits, sweeps, one⟩
  · have waiting (waits : (worker.step service event).loop.phase = .waiting) : worker.loop.phase = .waiting := by
      rcases worker.loop_step_cases service event with ⟨loop, _⟩ | ⟨occurrence, loop, _⟩
      · rw [← loop]
        exact waits
      · rw [loop] at waits
        exact Loop.waiting_of_step set waits
    rw [same]
    by_cases waits : (worker.step service event).loop.phase = .waiting
    · apply Nat.le_of_eq
      rw [if_pos waits, if_pos (waiting waits)]
    · rw [if_neg waits]
      exact Nat.le_add_right _ _
  · rw [one, waits, sweeps]
    exact Nat.le_refl _

/-- With the flag set for good, at most one more sweep is started. -/
theorem startable_run_le {worker : Worker} (set : worker.loop.flag = true) {events : List Event}
    (stays : .set false ∉ events) : (worker.run service events).startable ≤ worker.startable := by
  induction events generalizing worker with
  | nil => exact Nat.le_refl _
  | cons event later hypothesis =>
    rw [List.mem_cons, not_or] at stays
    have kept : (worker.step service event).loop.flag = true := by
      rw [flag_step, set, Event.flagAfter_true (Ne.symm stays.1)]
    exact Nat.le_trans (hypothesis kept stays.2) (startable_step_le set event)

theorem started_run_le_of_set (worker : Worker) {later : List Event} (stays : .set false ∉ later) :
    (worker.run service (.set true :: later)).started ≤ worker.started + 1 := by
  let told := worker.occur (.set true)
  have limited : told.startable ≤ worker.started + 1 := by
    unfold startable
    split
    · exact Nat.le_refl _
    · exact Nat.le_succ _
  have bound : (told.run service later).startable ≤ told.startable := startable_run_le rfl stays
  calc (told.run service later).started
    _ ≤ (told.run service later).startable := Nat.le_add_right _ _
    _ ≤ told.startable := bound
    _ ≤ worker.started + 1 := limited

/-- A worker whose loop has ended starts no sweep. -/
theorem started_run_of_stopped {worker : Worker} (stopped : worker.loop.phase = .stopped) (events : List Event) :
    (worker.run service events).started = worker.started := by
  induction events generalizing worker with
  | nil => rfl
  | cons event later hypothesis =>
    have ended : (worker.step service event).loop.phase = .stopped := by
      rcases worker.loop_step_cases service event with ⟨same, _⟩ | ⟨occurrence, same, _⟩
      · rw [same]
        exact stopped
      · rw [same]
        exact Loop.stopped_step stopped
    refine (hypothesis ended).trans ?_
    rcases worker.started_step_cases service event with same | ⟨waits, _⟩
    · exact same
    · cases stopped.symm.trans waits

/-- A sweep that was started is under way or has ended, and if it has, it came to something. -/
structure IsOrderly (service : Service) (worker : Worker) : Prop where
  sweeping : worker.loop.phase = .sweeping ↔ worker.underWay.isSome = true
  underWay : ∀ attempt ∈ worker.underWay, attempt.Stands service
  ended : forall attempt outcome, (attempt, outcome) ∈ worker.ended -> attempt.CameTo outcome
  counted : worker.started = worker.ended.length + worker.underWay.toList.length

/-- A loop has ended at its start if it is disabled or told to end before. -/
theorem stopped_start_iff {interval : Nat} {flag : Bool} {world : World} :
    (Worker.start interval flag world).loop.phase = .stopped ↔ interval = 0 ∨ flag = true := by
  unfold start Loop.start Loop.beforeWait
  dsimp only
  by_cases zero : interval = 0
  · rw [if_pos zero]
    exact ⟨fun _ => .inl zero, fun _ => rfl⟩
  · rw [if_neg zero]
    cases flag with
    | true => exact ⟨fun _ => .inr rfl, fun _ => rfl⟩
    | false => exact ⟨nofun, fun either => either.elim (absurd · zero) nofun⟩

theorem flag_start {interval : Nat} {flag : Bool} {world : World} :
    (Worker.start interval flag world).loop.flag = flag := by
  unfold start Loop.start
  dsimp only
  split
  · rfl
  · rfl

theorem abandoned_start {interval : Nat} {flag : Bool} {world : World} :
    (Worker.start interval flag world).loop.abandoned = false := by
  unfold start Loop.start
  dsimp only
  split
  · rfl
  · rfl

theorem isOrderly_start (interval : Nat) (flag : Bool) (world : World) :
    (Worker.start interval flag world).IsOrderly service := by
  constructor
  · unfold start Loop.start Loop.beforeWait
    dsimp only
    split
    · exact ⟨nofun, nofun⟩
    · cases flag <;> decide
  · intro attempt nothing
    cases nothing
  · intro attempt outcome member
    cases member
  · rfl

theorem IsOrderly.sweeping_of_busy {worker : Worker} (orderly : worker.IsOrderly service) {attempt : Attempt}
    (busy : worker.underWay = some attempt) : worker.loop.phase = .sweeping := by
  apply orderly.sweeping.mpr
  rw [busy]
  rfl

theorem IsOrderly.occur {worker : Worker} (orderly : worker.IsOrderly service) {occurrence : Occurrence}
    (tick : occurrence ≠ .tick) (swept : occurrence ≠ .swept) : (worker.occur occurrence).IsOrderly service :=
  ⟨(Loop.sweeping_step tick swept).trans orderly.sweeping, orderly.underWay, orderly.ended, orderly.counted⟩

theorem IsOrderly.tick {worker : Worker} (orderly : worker.IsOrderly service) :
    (worker.step service .tick).IsOrderly service := by
  by_cases waits : worker.loop.phase = .waiting
  · have idle : worker.underWay = none := by
      cases busy : worker.underWay with
      | none => rfl
      | some attempt => cases (orderly.sweeping_of_busy busy).symm.trans waits
    rw [Worker.step_tick_of_waiting service waits]
    constructor
    · exact ⟨fun _ => rfl, fun _ => rfl⟩
    · rintro _ ⟨⟩
      exact .begun
    · exact orderly.ended
    · have before := orderly.counted
      rw [idle] at before
      exact congrArg Nat.succ before
  · have same : worker.step service .tick = worker := by
      unfold Worker.step Worker.occur Loop.step
      dsimp only
      rw [if_neg waits, if_neg waits]
    rw [same]
    exact orderly

theorem IsOrderly.proceed {worker : Worker} (orderly : worker.IsOrderly service) {ending : Ending}
    (counted : ending ≠ .miscounted) : (worker.step service (.proceed ending)).IsOrderly service := by
  rcases worker.step_proceed_cases service ending with
    same | ⟨attempt, busy, ⟨unfinished, same⟩ | ⟨outcome, finished, same⟩⟩
  · rw [same]
    exact orderly
  · have before := orderly.counted
    rw [busy] at before
    rw [same]
    constructor
    · exact ⟨fun _ => rfl, fun _ => orderly.sweeping_of_busy busy⟩
    · rintro _ ⟨⟩
      exact (orderly.underWay attempt busy).step unfinished
    · exact orderly.ended
    · exact before
  · have before := orderly.counted
    rw [busy] at before
    rw [same]
    constructor
    · exact ⟨fun again => absurd again (Loop.step_swept_ne_sweeping (orderly.sweeping_of_busy busy)), nofun⟩
    · rintro _ ⟨⟩
    · intro other result member
      rcases List.mem_cons.mp member with last | earlier
      · cases last
        exact (orderly.underWay attempt busy).cameTo counted finished
      · exact orderly.ended other result earlier
    · exact before

/-- After a sweep, whatever it has come to, the loop waits again unless the flag is set. -/
theorem IsOrderly.waiting_of_ended {worker : Worker} (orderly : worker.IsOrderly service)
    (unset : worker.loop.flag = false) {ending : Ending} {last : Attempt × Except Error Nat}
    (ended : (worker.step service (.proceed ending)).ended = last :: worker.ended) :
    (worker.step service (.proceed ending)).loop.phase = .waiting := by
  have more : worker.ended ≠ last :: worker.ended := (List.cons_ne_self last worker.ended).symm
  rcases worker.step_proceed_cases service ending with same | ⟨attempt, busy, ⟨_, same⟩ | ⟨outcome, _, same⟩⟩
  · rw [same] at ended
    exact absurd ended more
  · rw [same] at ended
    exact absurd ended more
  · rw [same]
    apply (Loop.phase_step_swept (orderly.sweeping_of_busy busy)).trans
    rw [unset]
    rfl

theorem IsOrderly.step {worker : Worker} (orderly : worker.IsOrderly service) {event : Event}
    (counted : event ≠ .proceed .miscounted) : (worker.step service event).IsOrderly service := by
  cases event with
  | tick => exact orderly.tick
  | proceed ending => exact orderly.proceed fun same => counted (congrArg Event.proceed same)
  | noticed => exact orderly.occur nofun nofun
  | set flag => exact orderly.occur nofun nofun
  | abandon => exact orderly.occur nofun nofun
  | clock now => exact ⟨orderly.sweeping, orderly.underWay, orderly.ended, orderly.counted⟩
  | elsewhere world => exact ⟨orderly.sweeping, orderly.underWay, orderly.ended, orderly.counted⟩

theorem IsOrderly.run {worker : Worker} (orderly : worker.IsOrderly service) {events : List Event}
    (counted : .proceed .miscounted ∉ events) : (worker.run service events).IsOrderly service := by
  induction events generalizing worker with
  | nil => exact orderly
  | cons event later hypothesis =>
    rw [List.mem_cons, not_or] at counted
    exact hypothesis (orderly.step (Ne.symm counted.1)) counted.2

end Worker

/-- The sweeper survives failures and stops.  Every sweep that was started is under
way or has ended, and then it failed and changed nothing, or removed and counted
exactly the tokens that had expired by the instant at which it looked at the clock.
Whatever a sweep has come to, the loop waits again unless the flag is set then.  The
loop ends only with an event at which the flag is set or nobody is left to set it.
Once the flag is set and stays so, one more sweep is started at most.  With an
interval of zero, or with the flag set from the start, none is. -/
theorem sweeper_survives_failures_and_stops (service : Service) (interval : Nat) (flag : Bool) (world : World)
    {events : List Event} (counted : .proceed .miscounted ∉ events) :
    let start := Worker.start interval flag world
    let final := start.run service events
    (forall attempt outcome, (attempt, outcome) ∈ final.ended -> attempt.CameTo outcome) ∧
      final.started = final.ended.length + final.underWay.toList.length ∧
      (final.loop.phase = .sweeping ↔ final.underWay.isSome = true) ∧
      (forall ending attempt outcome,
        (final.step service (.proceed ending)).ended = (attempt, outcome) :: final.ended ->
        flagAfter flag events = false -> (final.step service (.proceed ending)).loop.phase = .waiting) ∧
      (final.loop.phase = .stopped -> interval = 0 ∨ flag = true ∨
        ∃ earlier event later, events = earlier ++ event :: later ∧
          (start.run service earlier).loop.phase ≠ .stopped ∧
          ((start.run service earlier).step service event).loop.phase = .stopped ∧
          (flagAfter flag earlier = true ∨ .abandon ∈ earlier)) ∧
      (forall earlier later, events = earlier ++ .set true :: later -> .set false ∉ later ->
        final.started ≤ (start.run service earlier).started + 1) ∧
      (interval = 0 ∨ flag = true -> final.started = 0) := by
  have orderly : ((Worker.start interval flag world).run service events).IsOrderly service :=
    (Worker.isOrderly_start interval flag world).run counted
  have flags (events : List Event) :
      ((Worker.start interval flag world).run service events).loop.flag = flagAfter flag events := by
    rw [Worker.flag_run, Worker.flag_start]
  refine ⟨orderly.ended, orderly.counted, orderly.sweeping, ?_, ?_, ?_, ?_⟩
  · intro ending attempt outcome ended unset
    exact orderly.waiting_of_ended ((flags events).trans unset) ended
  · intro stopped
    by_cases begins : (Worker.start interval flag world).loop.phase = .stopped
    · exact (Worker.stopped_start_iff.mp begins).imp_right .inl
    · right
      right
      rcases Worker.exists_end_of_stopped begins stopped with ⟨earlier, event, later, taken, before, after⟩
      refine ⟨earlier, event, later, taken, before, after, ?_⟩
      rcases Worker.asked_of_step before after with set | abandoned
      · exact .inl ((flags earlier).symm.trans set)
      · rcases Worker.abandoned_of_run abandoned with already | left
        · cases Worker.abandoned_start.symm.trans already
        · exact .inr left
  · rintro earlier later rfl stays
    rw [Worker.run_append]
    exact Worker.started_run_le_of_set _ stays
  · intro disabled
    exact Worker.started_run_of_stopped (Worker.stopped_start_iff.mpr disabled) events

end Service.Sweeper

namespace Sample

/-- The token of the user has expired a day ago. -/
def overdue : World :=
  { loggedIn with now := ⟨loggedIn.now.nanoseconds + 2 * 86400 * Instant.perSecond⟩ }

/-- Two sweeps fail before one succeeds, and when the loop is told to end, it takes another tick first. -/
def shift : List Service.Sweeper.Event :=
  [.tick, .proceed .carriedOut, .proceed (.refused .internal), .tick, .proceed .carriedOut, .proceed .givenUp,
    .tick, .proceed .carriedOut, .proceed .carriedOut, .set true, .tick, .proceed .carriedOut, .proceed .carriedOut]

def worked : Service.Sweeper.Worker :=
  (Service.Sweeper.Worker.start 60 false overdue).run service shift

/-- The worker during its first sweep, and after its failure. -/
def midway : Service.Sweeper.Worker :=
  (Service.Sweeper.Worker.start 60 false overdue).run service (shift.take 2)

def refused : Service.Sweeper.Worker :=
  midway.step service (.proceed (.refused .internal))

end Sample

/-- The sweep that succeeds removes the token that is overdue.  The loop waits again after the first one, which
fails, and has ended after the last one, which was started after the loop was told to end. -/
theorem sweeper_survives_failures_and_stops_of_overdue :
    .proceed .miscounted ∉ Sample.shift ∧ Sample.overdue.stores.tokens.tokens.size = 1 ∧
      Sample.worked.world.stores.tokens.tokens.size = 0 ∧ Sample.worked.loop.phase = .stopped ∧
      Sample.worked.ended.map Prod.snd = [.ok 0, .ok 1, .error .timeout, .error .internal] ∧
      (forall attempt outcome, (attempt, outcome) ∈ Sample.worked.ended -> attempt.CameTo outcome) ∧
      Sample.refused.ended.map Prod.snd = [.error .internal] ∧ Sample.refused.loop.phase = .waiting ∧
      (∃ earlier event later, Sample.shift = earlier ++ event :: later ∧
        Service.Sweeper.flagAfter false earlier = true) ∧
      Sample.worked.started = 4 ∧
      Sample.worked.started ≤ ((Service.Sweeper.Worker.start 60 false Sample.overdue).run Sample.service
        (Sample.shift.take 9)).started + 1 := by
  have observed : Sample.overdue.stores.tokens.tokens.size = 1 ∧
      Sample.worked.world.stores.tokens.tokens.size = 0 ∧ Sample.worked.loop.phase = .stopped ∧
      Sample.worked.ended.map Prod.snd = [.ok 0, .ok 1, .error .timeout, .error .internal] ∧
      Sample.refused.ended.map Prod.snd = [.error .internal] ∧ Sample.worked.started = 4 := by
    decide +kernel
  have counted : .proceed .miscounted ∉ Sample.shift := by
    simp only [Sample.shift, List.mem_cons, Service.Sweeper.Event.proceed.injEq, reduceCtorEq, List.not_mem_nil,
      or_self, not_false_eq_true]
  have present : .abandon ∉ Sample.shift := by
    simp only [Sample.shift, List.mem_cons, reduceCtorEq, List.not_mem_nil, or_self, not_false_eq_true]
  have goesOn : Sample.shift = Sample.shift.take 9 ++ .set true :: Sample.shift.drop 10 := rfl
  have stays : .set false ∉ Sample.shift.drop 10 := by
    simp only [Sample.shift, List.drop, List.mem_cons, reduceCtorEq, List.not_mem_nil, or_self, not_false_eq_true]
  have first := Service.Sweeper.sweeper_survives_failures_and_stops Sample.service 60 false Sample.overdue
    (fun early => counted (List.mem_of_mem_take early) : .proceed .miscounted ∉ Sample.shift.take 2)
  rcases first with ⟨_, _, _, goesOnAfter, _⟩
  rcases Service.Sweeper.sweeper_survives_failures_and_stops Sample.service 60 false Sample.overdue counted with
    ⟨cameTo, _, _, _, ends, last, _⟩
  rcases observed with ⟨one, none, stopped, outcomes, failed, four⟩
  refine ⟨counted, one, none, stopped, outcomes, cameTo, failed, ?_, ?_, four, last _ _ goesOn stays⟩
  · exact goesOnAfter (.refused .internal) _ _ rfl rfl
  · rcases (ends stopped).resolve_left nofun |>.resolve_left nofun with ⟨earlier, event, later, taken, _, _, asked⟩
    have stayed : .abandon ∉ earlier := fun left => present (taken ▸ List.mem_append_left _ left)
    exact ⟨earlier, event, later, taken, asked.resolve_right stayed⟩

end SingleSignOn

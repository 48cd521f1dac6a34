import Mathlib.Data.List.Nodup
import SingleSignOn.Proofs.RefreshToken.Stage

namespace SingleSignOn

/-!
# A refresh token is good for one use

Whatever calls are in progress at the same time, and however their store
calls come between each other, of all uses of one refresh token at most one
succeeds.  The argument counts a digest: it is owed to those who have drawn
it and not yet tried to store it, it may be stored, and it is spent by those
who have seen it removed.  No step adds to this count but the draw of the
token, since a removal is counted only if something was there to be removed.
-/

/-- A refresh with a token that succeeded, or a logout that revoked it. -/
def Process.spends (token : String) : Process -> Bool
  | ⟨.refresh presented, .done (.ok _)⟩ => presented == token
  | ⟨.logout presented, .done (.ok true)⟩ => presented == token
  | _ => false

/-- An event that ends a removal of one refresh token carries it out. -/
def System.CarriesRemovalOut (system : System) (event : Event) : Prop :=
  forall number ending digest, event = .proceed number ending ->
    system.request? event = some (.tokens (.deleteByToken digest)) -> ending.isEffective = true

/-- Whether a call is made with a token of a digest. -/
def ServiceCall.presents (service : Service) (digest : String) : ServiceCall -> Bool
  | .refresh token => service.tokenDigest token == digest
  | .logout token => service.tokenDigest token == digest
  | _ => false

/-- Whether a digest is stored, as a number. -/
def World.holdings (world : World) (digest : String) : Nat :=
  if (world.record? digest).isSome then 1 else 0

/-- What a call counts for a digest that it is about to store or has seen removed. -/
def ServiceCall.credit (service : Service) (digest : String) (call : ServiceCall) : Stage -> Nat
  | .minted _ record => if record.digest = digest then 1 else 0
  | .opening record => if record.digest = digest then 1 else 0
  | .rotated _ true => if call.presents service digest then 1 else 0
  | .removed (_ + 1) => if call.presents service digest then 1 else 0
  | _ => 0

namespace ServiceCall

/-- What all calls together count for a digest. -/
def credits (service : Service) (digest : String) (standings : List (ServiceCall × Stage)) : Nat :=
  (standings.map fun standing => standing.1.credit service digest standing.2).sum

variable (service : Service) (digest : String)

theorem credits_append (first second : List (ServiceCall × Stage)) :
    credits service digest (first ++ second) = credits service digest first + credits service digest second := by
  simp only [credits, List.map_append, List.sum_append]

theorem credits_cons (call : ServiceCall) (stage : Stage) (others : List (ServiceCall × Stage)) :
    credits service digest ((call, stage) :: others) =
      call.credit service digest stage + credits service digest others := by
  simp only [credits, List.map_cons, List.sum_cons]

end ServiceCall

namespace World

variable (world : World) {digest : String}

theorem holdings_of_none (absent : world.record? digest = none) : world.holdings digest = 0 := by
  simp only [holdings, absent, Option.isSome_none, Bool.false_eq_true, if_false]

theorem holdings_of_some {record : RefreshToken} (present : world.record? digest = some record) :
    world.holdings digest = 1 := by
  simp only [holdings, present, Option.isSome_some, if_true]

theorem holdings_endCall_le {request : StoreCall} (adds : request.created? = none) (ending : Ending)
    (digest : String) : (world.endCall request ending).2.holdings digest ≤ world.holdings digest := by
  cases stored : (world.endCall request ending).2.record? digest with
  | none =>
    rw [holdings_of_none _ stored]
    exact Nat.zero_le _
  | some record =>
    have kept := holdings_of_some _ (world.record?_of_endCall adds ending stored)
    exact Nat.le_of_eq ((holdings_of_some _ stored).trans kept.symm)

theorem holdings_create_le (token : NewRefreshToken) (ending : Ending) (digest : String) :
    (world.endCall (.tokens (.create token)) ending).2.holdings digest ≤
      world.holdings digest + if token.digest = digest then 1 else 0 := by
  cases stored : (world.endCall (.tokens (.create token)) ending).2.record? digest with
  | none =>
    rw [holdings_of_none _ stored]
    exact Nat.zero_le _
  | some record =>
    rw [holdings_of_some _ stored]
    rcases world.record?_of_create token ending stored with before | ⟨same, _, _⟩
    · rw [holdings_of_some _ before]
      exact Nat.le_add_right _ _
    · rw [if_pos same]
      exact Nat.le_add_left _ _

/-- A removal counts a token only if it was stored, and then it is stored no longer. -/
theorem holdings_deleteByToken {gone : String} {ending : Ending} {count : Nat}
    (counted : (world.endCall (.tokens (.deleteByToken gone)) ending).1 = some (.ok (count + 1))) :
    (world.endCall (.tokens (.deleteByToken gone)) ending).2.holdings gone + 1 = world.holdings gone := by
  rw [world.deleteByToken_reply] at counted
  cases ending with
  | refused error => cases counted
  | givenUp => cases counted
  | miscounted => cases counted
  | carriedOut =>
    rw [holdings_of_none _ (world.record?_deleteByToken rfl)]
    cases present : world.record? gone with
    | none =>
      rw [present] at counted
      cases counted
    | some record => rw [holdings_of_some _ present]

end World

namespace ServiceCall

variable (service : Service) (world : World) (digest : String) (call : ServiceCall)

/-- What a removal of the presented token is counted for was stored before. -/
theorem holdings_removed {gone : String} {ending : Ending} {count : Nat}
    (counted : (world.endCall (.tokens (.deleteByToken gone)) ending).1 = some (.ok (count + 1)))
    (presented : call.presents service digest = true -> gone = digest) :
    (world.endCall (.tokens (.deleteByToken gone)) ending).2.holdings digest +
      (if call.presents service digest then 1 else 0) ≤ world.holdings digest := by
  split
  · next presents =>
    cases presented presents
    exact Nat.le_of_eq (world.holdings_deleteByToken counted)
  · exact world.holdings_endCall_le rfl ending digest

theorem presents_of_asks {findings : Findings} {gone : String}
    (allowed : call.asks service findings (.tokens (.deleteByToken gone)))
    (presents : call.presents service digest = true) : gone = digest := by
  cases call with
  | refresh token => exact allowed.trans (beq_iff_eq.mp presents)
  | logout token => exact allowed.trans (beq_iff_eq.mp presents)
  | _ => cases presents

/-- While a call only looks things up, its store calls add nothing to the count. -/
theorem credit_asking {findings : Findings} {request : StoreCall}
    (allowed : call.asks service findings request) (ending : Ending) :
    (world.endCall request ending).2.holdings digest +
        call.credit service digest
          (Stage.replied (.asking findings) request (world.endCall request ending).1) ≤
      world.holdings digest := by
  by_cases removes : ∃ gone, request = .tokens (.deleteByToken gone)
  · rcases removes with ⟨gone, rfl⟩
    match counted : (world.endCall (.tokens (.deleteByToken gone)) ending).1 with
    | some (.ok (count + 1)) =>
      exact holdings_removed service world digest call counted
        (presents_of_asks service digest call allowed)
    | some (.ok 0) => exact world.holdings_endCall_le rfl ending digest
    | some (.error error) => exact world.holdings_endCall_le rfl ending digest
    | none => exact world.holdings_endCall_le rfl ending digest
  · rcases Stage.replied_asking findings (fun gone same => removes ⟨gone, same⟩)
      (world.endCall request ending).1
      with ⟨later, same⟩
    rw [same]
    exact world.holdings_endCall_le (created?_of_asks allowed) ending digest

/-- No store call adds to what a digest is counted for. -/
theorem credit_called {stage : Stage} {request : StoreCall}
    (allowed : call.Allows service stage request) (ending : Ending) :
    (world.endCall request ending).2.holdings digest +
        call.credit service digest (stage.replied request (world.endCall request ending).1) ≤
      world.holdings digest + call.credit service digest stage := by
  cases allowed with
  | asked asks => exact credit_asking service world digest call asks ending
  | @revoked _ _ _ findings record =>
    have adds : StoreCall.created? (.tokens (.deleteByOwner record.userId record.appId)) = none :=
      rfl
    have less := world.holdings_endCall_le adds ending digest
    match (world.endCall (.tokens (.deleteByOwner record.userId record.appId)) ending).1 with
    | some (.ok count) => exact Nat.add_le_add_right less _
    | some (.error error) => exact Nat.le_trans less (Nat.le_add_right _ _)
    | none => exact Nat.le_trans less (Nat.le_add_right _ _)
  | @opened _ _ _ record =>
    have more := world.holdings_create_le record ending digest
    match (world.endCall (.tokens (.create record)) ending).1 with
    | some (.ok _) => exact more
    | some (.error error) => exact more
    | none => exact more
  | @placed token findings record =>
    have more := world.holdings_create_le record ending digest
    match (world.endCall (.tokens (.create record)) ending).1 with
    | some (.ok _) => exact more
    | some (.error error) => exact more
    | none => exact more
  | @exchanged token findings record =>
    match counted : (world.endCall (.tokens (.deleteByToken (service.tokenDigest token))) ending).1 with
    | some (.ok (count + 1)) =>
      exact holdings_removed service world digest (.refresh token) counted beq_iff_eq.mp
    | some (.ok 0) => exact world.holdings_endCall_le rfl ending digest
    | some (.error error) => exact world.holdings_endCall_le rfl ending digest
    | none => exact world.holdings_endCall_le rfl ending digest
  | @takenBack token record =>
    exact world.holdings_endCall_le rfl ending digest

/-- A draw adds to the count of the digest of the token that is drawn. -/
theorem credit_drew {stage later : Stage} {bytes : Bytes}
    (moved : call.Draws service stage bytes later) :
    call.credit service digest later ≤
      call.credit service digest stage + drawn service digest [(call, bytes)] := by
  cases moved with
  | unrelated other => exact Nat.le_add_right _ _
  | minted opens foundUser foundApp =>
    rw [drawn_of_opensSession service digest opens]
    exact Nat.le_add_left _ _

/-- Whoever gives a new token out has seen the presented one removed, if
removals are carried out. -/
theorem ne_rotated_false {stage : Stage} {request : StoreCall} {ending : Ending}
    (allowed : call.Allows service stage request)
    (done : forall gone, request = .tokens (.deleteByToken gone) -> ending.isEffective = true)
    (record : NewRefreshToken) :
    stage.replied request (world.endCall request ending).1 ≠ .rotated record false := by
  intro same
  rcases Stage.eq_of_replied_eq_rotated same with rfl | ⟨findings, rfl⟩
  · cases allowed
  · cases allowed with
    | exchanged =>
      rw [world.deleteByToken_reply] at same
      cases ending with
      | refused error => cases done _ rfl
      | givenUp => cases done _ rfl
      | miscounted => cases same
      | carriedOut =>
        dsimp only at same
        split at same
        · cases same
        · cases same

end ServiceCall

/-- What a digest is counted for is covered by the draws of its token, and
whoever gave a new token out has seen the presented one removed. -/
structure Counted (service : Service) (past : List (ServiceCall × Bytes)) (world : World)
    (standings : List (ServiceCall × Stage)) : Prop where
  covered : forall digest, world.holdings digest + ServiceCall.credits service digest standings ≤
    ServiceCall.drawn service digest past
  removed : forall call record, (call, .rotated record false) ∉ standings

namespace Counted

variable {service : Service} {past : List (ServiceCall × Bytes)} {world : World}
  {standings : List (ServiceCall × Stage)}

/-- Draws only ever cover more. -/
theorem extend (counted : Counted service past world standings)
    (draws : List (ServiceCall × Bytes)) :
    Counted service (past ++ draws) world standings := by
  refine ⟨fun digest => Nat.le_trans (counted.covered digest) ?_, counted.removed⟩
  rw [ServiceCall.drawn_append]
  exact Nat.le_add_right _ _

/-- No event breaks the count. -/
theorem kept {system : System} {event : Event} {later : List (ServiceCall × Stage)}
    (condition : system.CarriesRemovalOut event)
    (move : service.stages.Move system event standings world later)
    (counted : Counted service past system.world standings) :
    Counted service (past ++ (system.drawn? event).toList) world later := by
  cases move with
  | began call told =>
    refine extend ⟨fun digest => ?_, fun call record member => ?_⟩ _
    · rw [ServiceCall.credits_append]
      exact counted.covered digest
    · rcases List.mem_append.mp member with old | new
      · exact counted.removed call record old
      · cases List.mem_singleton.mp new
  | clockSet now told =>
    have same : Counted service past { system.world with now := now } standings :=
      ⟨counted.covered, counted.removed⟩
    exact same.extend _
  | stayed => exact extend counted _
  | drew before call stage later after bytes drawn moved =>
    refine ⟨fun digest => ?_, fun other record member => ?_⟩
    · have covered := counted.covered digest
      have more := ServiceCall.credit_drew service digest call moved
      rw [ServiceCall.credits_append, ServiceCall.credits_cons] at covered
      rw [drawn, Option.toList_some, ServiceCall.credits_append, ServiceCall.credits_cons,
        ServiceCall.drawn_append]
      show system.world.holdings digest + _ ≤ _
      omega
    · rcases List.mem_append.mp member with old | new
      · exact counted.removed other record (List.mem_append_left _ old)
      · rcases List.mem_cons.mp new with mover | old
        · cases mover
          cases moved
        · exact counted.removed other record (List.mem_append_right _ (List.mem_cons_of_mem _ old))
  | called before call stage after request ending told requested allowed =>
    refine extend ⟨fun digest => ?_, fun other record member => ?_⟩ _
    · have covered := counted.covered digest
      have less := ServiceCall.credit_called service system.world digest call allowed ending
      rw [ServiceCall.credits_append, ServiceCall.credits_cons] at covered ⊢
      show _ + (_ + (call.credit service digest (stage.replied request _) + _)) ≤ _
      omega
    · rcases List.mem_append.mp member with old | new
      · exact counted.removed other record (List.mem_append_left _ old)
      · rcases List.mem_cons.mp new with mover | old
        · refine ServiceCall.ne_rotated_false service system.world call allowed
            (fun gone same => ?_) record
            (Prod.mk.inj mover).2.symm
          exact condition _ _ gone told (requested.trans (congrArg some same))
        · exact counted.removed other record (List.mem_append_right _ (List.mem_cons_of_mem _ old))

end Counted

/-- A process that has spent a token counts for its digest. -/
theorem Counted.credit_of_spends {service : Service} {past : List (ServiceCall × Bytes)}
    {world : World} {standings : List (ServiceCall × Stage)}
    (counted : Counted service past world standings) {token : String} {process : Process}
    {stage : Stage} (stands : (process.call, stage) ∈ standings)
    (follows : process.rest.Follows (service.stages.discipline process.call) (service.stages.fits process.call)
      stage) (spends : process.spends token = true) :
    1 ≤ process.call.credit service (service.tokenDigest token) stage := by
  unfold Process.spends at spends
  split at spends
  · next presented session =>
    rcases follows with ⟨record, removed, rfl, _⟩
    cases removed with
    | false => exact absurd stands (counted.removed _ record)
    | true =>
      rw [beq_iff_eq.mp spends]
      simp [ServiceCall.credit, ServiceCall.presents]
  · next presented =>
    rcases follows with ⟨count, rfl, revoked⟩
    cases count with
    | zero => cases revoked
    | succ count =>
      rw [beq_iff_eq.mp spends]
      simp [ServiceCall.credit, ServiceCall.presents]
  · cases spends

/-- Of all refreshes with a token that succeed and all logouts that revoke
it, there is at most one.  The calls may be of any kind and number and come
between each other at any store call.  Store calls other than the removal of
one token may fail or be given up. -/
theorem single_use (service : Service) (world : World) (events : List Event) (token : String)
    (empty : world.stores.tokens = .empty)
    (distinct : (((System.start world).generated service events).map service.tokenDigest).Nodup)
    (removals : (System.start world).Throughout service System.CarriesRemovalOut events) :
    ((System.start world).run service events).processes.countP (Process.spends token) ≤ 1 := by
  have begins : Counted service [] world [] := by
    refine ⟨fun digest => ?_, fun _ _ => List.not_mem_nil⟩
    rw [World.holdings_of_none]
    · exact Nat.zero_le _
    · simp [World.record?, empty, TokenStore.empty]
  rcases service.stages.tracks_run
    (fun _ _ _ _ _ _ condition _ move => Counted.kept condition move) removals
    Tracking.tracks_nil begins with ⟨final, tracks, counted⟩
  calc
    _ ≤ ServiceCall.credits service (service.tokenDigest token) final :=
      tracks.countP_le _ _ fun process stage stands follows spends =>
        counted.credit_of_spends stands follows spends
    _ ≤ ServiceCall.drawn service (service.tokenDigest token) ((System.start world).draws service events) :=
      Nat.le_trans (Nat.le_add_left _ _) (counted.covered _)
    _ ≤ 1 := List.nodup_iff_count_le_one.mp distinct _

theorem carriesRemovalOut_of_isSmooth (system : System) (event : Event) (smooth : event.IsSmooth) :
    system.CarriesRemovalOut event := by
  rintro number ending digest rfl _
  cases smooth
  rfl

/-- The bound is met when two refreshes race for one token. -/
theorem single_use_of_race :
    Sample.world.stores.tokens = .empty ∧
      (((System.start Sample.world).generated Sample.service Sample.race).map Sample.service.tokenDigest).Nodup ∧
      (System.start Sample.world).Throughout Sample.service System.CarriesRemovalOut Sample.race ∧
      ((System.start Sample.world).run Sample.service Sample.race).processes.countP
        (Process.spends Sample.token) ≤ 1 := by
  have distinct : (((System.start Sample.world).generated Sample.service Sample.race).map
      Sample.service.tokenDigest).Nodup := by decide +kernel
  have smooth : ∀ event ∈ Sample.race, event.IsSmooth := by decide +kernel
  have removals : (System.start Sample.world).Throughout Sample.service System.CarriesRemovalOut
      Sample.race :=
    (System.throughout_of_forall_mem smooth).mono carriesRemovalOut_of_isSmooth
  exact ⟨rfl, distinct, removals,
    single_use Sample.service Sample.world Sample.race Sample.token rfl distinct removals⟩

end SingleSignOn

import SingleSignOn.Proofs.RefreshToken.OnePerPair
import SingleSignOn.Proofs.RefreshToken.Refusal

namespace SingleSignOn

/-!
# Where refresh tokens come from

Every refresh token that is stored in a run was drawn by the call that stores
it, and no digest is drawn twice.  So a token that was stored and is gone
stays gone, and whoever presents a token presents one that its maker has
given out.  `Lineage` keeps account of this along a run: which tokens were
stored, by which calls, and which of them a call still holds.
-/

/-! ## The tokens that a run stores -/

namespace System

/-- The refresh token that an event is to store, and the call that stores it. -/
def created? (system : System) (event : Event) : Option (ServiceCall × NewRefreshToken) :=
  (system.mover? event).bind fun process =>
    (process.rest.request?.bind StoreCall.created?).map fun record => (process.call, record)

/-- All refresh tokens that a run is to store, with the calls that store them. -/
def creations (service : Service) (system : System) : List Event -> List (ServiceCall × NewRefreshToken)
  | [] => []
  | event :: later => (system.created? event).toList ++ creations service (system.step service event) later

variable {service : Service}

theorem creations_append (system : System) (first second : List Event) :
    system.creations service (first ++ second) =
      system.creations service first ++ (system.run service first).creations service second := by
  induction first generalizing system with
  | nil => rfl
  | cons event later hypothesis =>
    rw [List.cons_append, creations, creations, hypothesis, List.append_assoc]
    rfl

theorem creations_append_singleton (system : System) (past : List Event) (event : Event) :
    system.creations service (past ++ [event]) =
      system.creations service past ++ ((system.run service past).created? event).toList := by
  rw [creations_append, creations, creations, List.append_nil]

theorem created?_of_none {system : System} {event : Event}
    (nothing : (system.request? event).bind StoreCall.created? = none) : system.created? event = none := by
  unfold created?
  unfold request? at nothing
  cases moves : system.mover? event with
  | none => rfl
  | some process =>
    rw [moves] at nothing
    exact Option.map_eq_none_iff.mpr nothing

theorem created?_of_mover? {system : System} {event : Event} {process : Process} {request : StoreCall}
    (moves : system.mover? event = some process) (requested : system.request? event = some request) :
    system.created? event = request.created?.map (process.call, ·) := by
  unfold request? at requested
  rw [moves, Option.bind_some] at requested
  rw [created?, moves, Option.bind_some, requested, Option.bind_some]

end System

namespace Stage

/-- The token that a call has drawn and not yet tried to store. -/
def unborn? : Stage -> Option NewRefreshToken
  | .minted _ record => some record
  | .opening record => some record
  | _ => none

/-- The token that a call has stored and not taken back. -/
def stored? : Stage -> Option NewRefreshToken
  | .opened record => some record
  | .placed _ record => some record
  | .beaten record => some record
  | .rotated record _ => some record
  | _ => none

theorem stored?_of_given? {stage : Stage} {record : NewRefreshToken}
    (given : stage.given? = some record) : stage.stored? = some record := by
  cases stage <;> first | exact given | cases given

theorem given_or_pending {stage : Stage} {record : NewRefreshToken}
    (stored : stage.stored? = some record) :
    stage.given? = some record ∨ stage.pending? = some record := by
  cases stage <;> first | exact .inl stored | exact .inr stored

theorem stored?_of_own? {stage : Stage} (without : stage.own? = none) : stage.stored? = none := by
  cases stage <;> first | rfl | cases without

theorem unborn?_replied (stage : Stage) (request : StoreCall)
    (reply : Option (Except Error request.Reply)) :
    (stage.replied request reply).unborn? = none ∨ (stage.replied request reply).unborn? = stage.unborn? := by
  fun_cases Stage.replied stage request reply <;> first | exact .inl rfl | exact .inr rfl

theorem stored?_of_unborn? {stage : Stage} {record : NewRefreshToken}
    (unborn : stage.unborn? = some record) : stage.stored? = none := by
  cases stage <;> first | rfl | cases unborn

end Stage

/-- The digests of tokens that calls have drawn and not yet tried to store. -/
def unbornDigests (standings : List (ServiceCall × Stage)) : List String :=
  standings.filterMap fun standing => standing.2.unborn?.map NewRefreshToken.digest

theorem count_unbornDigests_cons (call : ServiceCall) (stage : Stage)
    (others : List (ServiceCall × Stage)) (digest : String) :
    (unbornDigests ((call, stage) :: others)).count digest =
      (stage.unborn?.toList.map NewRefreshToken.digest).count digest +
        (unbornDigests others).count digest :=
  count_digests_cons Stage.unborn? call stage others digest

namespace ServiceCall.Allows

variable {service : Service} {call : ServiceCall} {stage : Stage} {request : StoreCall}
  {record : NewRefreshToken}

/-- A call stores the token that it has drawn. -/
theorem unborn?_of_created? (allowed : call.Allows service stage request)
    (creates : request.created? = some record) : stage.unborn? = some record := by
  cases allowed with
  | asked asks => cases (created?_of_asks asks).symm.trans creates
  | revoked => cases creates
  | opened => exact creates
  | placed => exact creates
  | exchanged => cases creates
  | takenBack => cases creates

theorem replied_of_created? (allowed : call.Allows service stage request)
    (creates : request.created? = some record) (reply : request.Reply) :
    (stage.replied request (some (.ok reply))).stored? = some record ∧
      (stage.replied request (some (.ok reply))).unborn? = none ∧
      (call.isRefresh = true -> (stage.replied request (some (.ok reply))).given? = none) := by
  cases allowed with
  | asked asks => cases (created?_of_asks asks).symm.trans creates
  | revoked => cases creates
  | opened => exact ⟨creates, rfl, nofun⟩
  | placed => exact ⟨creates, rfl, fun _ => rfl⟩
  | exchanged => cases creates
  | takenBack => cases creates

/-- A call loses a token that it has stored only by taking it back. -/
theorem stored?_replied (allowed : call.Allows service stage request) (plain : request.created? = none)
    (reply : Option (Except Error request.Reply)) :
    (stage.replied request reply).stored? = stage.stored? ∨
      (stage.replied request reply).stored? = none ∧
        forall record, stage.stored? = some record -> request = .tokens (.deleteByToken record.digest) := by
  cases allowed with
  | @asked _ findings _ asks =>
    have without : (Stage.replied (.asking findings) request reply).own? = none :=
      (Stage.own?_replied (.asking findings) request reply).elim id id
    exact .inl (Stage.stored?_of_own? without)
  | revoked =>
    left
    match reply with
    | some (.ok count) => rfl
    | some (.error error) => rfl
    | none => rfl
  | opened => cases plain
  | placed => cases plain
  | exchanged =>
    left
    match reply with
    | some (.ok 0) => rfl
    | some (.ok (count + 1)) => rfl
    | some (.error error) => rfl
    | none => rfl
  | takenBack =>
    right
    refine ⟨?_, fun record same => ?_⟩
    · match reply with
      | some (.ok count) => rfl
      | some (.error error) => rfl
      | none => rfl
    · cases same
      rfl

/-- A call that has given its token out makes no more store calls. -/
theorem given?_eq_none (allowed : call.Allows service stage request) : stage.given? = none := by
  cases allowed <;> rfl

end ServiceCall.Allows

/-- What a refresh gives out takes the place of a presented token that was stored. -/
theorem ServiceCall.Allows.given?_replied {service : Service} {token : String} {stage : Stage}
    {request : StoreCall} {world : World} {record : NewRefreshToken}
    (allowed : (ServiceCall.refresh token).Allows service stage request)
    (given : (stage.replied request (world.endCall request .carriedOut).1).given? = some record) :
    request = .tokens (.deleteByToken (service.tokenDigest token)) ∧
      world.record? (service.tokenDigest token) ≠ none := by
  have stored := Stage.stored?_of_given? given
  cases allowed with
  | @asked _ findings _ asks =>
    have plain := ServiceCall.created?_of_asks asks
    rcases (ServiceCall.Allows.asked asks).stored?_replied plain
      (world.endCall request .carriedOut).1 with same | ⟨without, _⟩
    · cases same.symm.trans stored
    · cases without.symm.trans stored
  | @placed _ findings placed =>
    match replied : (world.endCall (.tokens (.create placed)) .carriedOut).1 with
    | some (.ok _) =>
      rw [replied] at given
      cases given
    | some (.error error) =>
      rw [replied] at given
      cases given
    | none =>
      rw [replied] at given
      cases given
  | exchanged =>
    refine ⟨rfl, fun absent => ?_⟩
    rw [world.deleteByToken_reply, absent] at given
    cases given
  | takenBack =>
    rw [world.deleteByToken_reply] at given
    cases given

/-! ## Accounts of a run -/

/-- The digests of tokens that were stored. -/
def createdDigests (made : List (ServiceCall × NewRefreshToken)) : List String :=
  made.map fun entry => entry.2.digest

/-- A token was in store at the start, or was stored since then. -/
def WasStored (start : World) (made : List (ServiceCall × NewRefreshToken)) (digest : String) : Prop :=
  start.record? digest ≠ none ∨ digest ∈ createdDigests made

/-- A token was stored and is stored no longer. -/
def IsGone (start : World) (made : List (ServiceCall × NewRefreshToken)) (world : World)
    (digest : String) : Prop :=
  world.record? digest = none ∧ WasStored start made digest

theorem WasStored.more {start : World} {made : List (ServiceCall × NewRefreshToken)} {digest : String}
    (stored : WasStored start made digest) (more : List (ServiceCall × NewRefreshToken)) :
    WasStored start (made ++ more) digest := by
  refine stored.imp id fun created => ?_
  rw [createdDigests, List.map_append]
  exact List.mem_append_left _ created

/-- Some call has given out the token of a digest. -/
def GivenOut (standings : List (ServiceCall × Stage)) (digest : String) : Prop :=
  ∃ giver ∈ standings, ∃ record, giver.2.given? = some record ∧ record.digest = digest

theorem GivenOut.mono {standings others : List (ServiceCall × Stage)} {digest : String}
    (given : GivenOut standings digest) (more : standings ⊆ others) : GivenOut others digest := by
  rcases given with ⟨giver, member, record⟩
  exact ⟨giver, more member, record⟩

/-- A call that has not given a token out may go on. -/
theorem GivenOut.step {call : ServiceCall} {stage : Stage} {others : List (ServiceCall × Stage)}
    {digest : String} (given : GivenOut ((call, stage) :: others) digest) (kept : stage.given? = none)
    (next : Stage) : GivenOut ((call, next) :: others) digest := by
  rcases given with ⟨giver, member, record, gave, same⟩
  rcases List.mem_cons.mp member with rfl | old
  · cases kept.symm.trans gave
  · exact ⟨giver, List.mem_cons_of_mem _ old, record, gave, same⟩

/-- The tokens have digests of their own, which are neither those of tokens in
store at the start nor those of tokens that were returned earlier. -/
structure Service.Unused (service : Service) (start : World) (earlier tokens : List String) : Prop where
  distinct : (tokens.map service.tokenDigest).Nodup
  unstored : ∀ token ∈ tokens, start.record? (service.tokenDigest token) = none
  unreturned : ∀ token ∈ tokens, ∀ returned ∈ earlier,
    service.tokenDigest returned ≠ service.tokenDigest token

theorem Service.Unused.of_append {service : Service} {start : World} {earlier tokens more : List String}
    (unused : service.Unused start earlier (tokens ++ more)) : service.Unused start earlier tokens := by
  have distinct := unused.distinct
  rw [List.map_append] at distinct
  exact ⟨(List.nodup_append.mp distinct).1,
    fun token drawn => unused.unstored token (List.mem_append_left _ drawn),
    fun token drawn => unused.unreturned token (List.mem_append_left _ drawn)⟩

/-- Where the tokens of a run have come from and what has become of them. -/
structure Lineage (service : Service) (start : World) (earlier : List String)
    (past : List (ServiceCall × Bytes)) (made : List (ServiceCall × NewRefreshToken)) (world : World)
    (standings : List (ServiceCall × Stage)) : Prop where
  /-- A token is drawn once for each time that it is stored or about to be. -/
  accounted : forall digest,
    (createdDigests made).count digest + (unbornDigests standings).count digest ≤
      ServiceCall.drawn service digest past
  known : forall digest, world.record? digest ≠ none -> WasStored start made digest
  logged : ∀ standing ∈ standings, forall record, standing.2.stored? = some record ->
    (standing.1, record) ∈ made
  makers : ∀ entry ∈ made, ∃ stage, (entry.1, stage) ∈ standings
  /-- A refresh presents a token that was returned earlier or given out since. -/
  presented : forall token stage, (.refresh token, stage) ∈ standings ->
    token ∈ earlier ∨ GivenOut standings (service.tokenDigest token)
  /-- Whoever gives a token out for a presented one has seen that one removed. -/
  spent : forall token stage, (.refresh token, stage) ∈ standings -> stage.given? ≠ none ->
    IsGone start made world (service.tokenDigest token)
  /-- A token that is stored is held by the call that has stored it. -/
  held : ∀ entry ∈ made, world.record? entry.2.digest ≠ none ->
    ∃ stage, (entry.1, stage) ∈ standings ∧ stage.stored? = some entry.2

namespace Lineage

variable {service : Service} {start : World} {earlier : List String}
  {past : List (ServiceCall × Bytes)} {made : List (ServiceCall × NewRefreshToken)} {world : World}
  {standings others : List (ServiceCall × Stage)} {call : ServiceCall} {stage : Stage}

/-- The order of the calls does not matter. -/
theorem congr (lineage : Lineage service start earlier past made world standings)
    (same : others.Perm standings) : Lineage service start earlier past made world others := by
  have member {standing : ServiceCall × Stage} : standing ∈ others ↔ standing ∈ standings := same.mem_iff
  refine ⟨fun digest => ?_, lineage.known, fun standing listed => lineage.logged standing (member.mp listed),
    fun entry listed => ?_, fun token stage listed => ?_,
    fun token stage listed => lineage.spent token stage (member.mp listed), fun entry listed stored => ?_⟩
  · have counts : (unbornDigests others).count digest = (unbornDigests standings).count digest :=
      (same.filterMap _).count_eq digest
    rw [counts]
    exact lineage.accounted digest
  · rcases lineage.makers entry listed with ⟨stage, made⟩
    exact ⟨stage, member.mpr made⟩
  · exact (lineage.presented token stage (member.mp listed)).imp id fun given => given.mono same.symm.subset
  · rcases lineage.held entry listed stored with ⟨stage, holds, same⟩
    exact ⟨stage, member.mpr holds, same⟩

/-- A call goes on, whatever its stage is. -/
theorem exists_stage {other : ServiceCall} {before : Stage} (next : Stage)
    (member : (other, before) ∈ (call, stage) :: others) :
    ∃ after, (other, after) ∈ (call, next) :: others := by
  rcases List.mem_cons.mp member with same | old
  · cases same
    exact ⟨next, List.mem_cons_self⟩
  · exact ⟨before, List.mem_cons_of_mem _ old⟩

/-- A call goes on, and is still the one that has stored its tokens. -/
theorem makers_step (lineage : Lineage service start earlier past made world ((call, stage) :: others))
    (next : Stage) {entry : ServiceCall × NewRefreshToken} (listed : entry ∈ made) :
    ∃ after, (entry.1, after) ∈ (call, next) :: others := by
  rcases lineage.makers entry listed with ⟨before, member⟩
  exact exists_stage next member

/-- A call that has not given a token out may go on. -/
theorem presented_step (lineage : Lineage service start earlier past made world ((call, stage) :: others))
    (kept : stage.given? = none) (next : Stage) {token : String} {after : Stage}
    (member : (.refresh token, after) ∈ (call, next) :: others) :
    token ∈ earlier ∨ GivenOut ((call, next) :: others) (service.tokenDigest token) := by
  rcases exists_stage stage member with ⟨before, listed⟩
  exact (lineage.presented token before listed).imp id fun given => given.step kept next

/-- The accounts do not look at the clock or at what is left to draw. -/
theorem frame (lineage : Lineage service start earlier past made world standings) (later : World)
    (same : later.stores.tokens = world.stores.tokens) :
    Lineage service start earlier past made later standings := by
  have records (digest : String) : later.record? digest = world.record? digest := by
    rw [World.record?, same, World.record?]
  refine ⟨lineage.accounted, fun digest stored => lineage.known digest (records digest ▸ stored),
    lineage.logged, lineage.makers, lineage.presented, fun token stage member given => ?_,
    fun entry listed stored => lineage.held entry listed (records _ ▸ stored)⟩
  have gone := lineage.spent token stage member given
  exact ⟨(records _).trans gone.1, gone.2⟩

/-- Draws only ever account for more. -/
theorem extend (lineage : Lineage service start earlier past made world standings)
    (draws : List (ServiceCall × Bytes)) :
    Lineage service start earlier (past ++ draws) made world standings := by
  refine ⟨fun digest => ?_, lineage.known, lineage.logged, lineage.makers, lineage.presented,
    lineage.spent, lineage.held⟩
  rw [ServiceCall.drawn_append]
  exact Nat.le_trans (lineage.accounted digest) (Nat.le_add_right _ _)

/-- A call that begins has stored nothing yet. -/
theorem join (lineage : Lineage service start earlier past made world standings) (call : ServiceCall)
    (presented : forall token, call = .refresh token ->
      token ∈ earlier ∨ GivenOut standings (service.tokenDigest token)) :
    Lineage service start earlier past made world ((call, .start) :: standings) := by
  refine ⟨fun digest => ?_, lineage.known, ?_, fun entry listed => ?_, ?_, ?_, fun entry listed stored => ?_⟩
  · rw [count_unbornDigests_cons]
    exact Nat.le_trans (Nat.le_of_eq (congrArg _ (Nat.zero_add _))) (lineage.accounted digest)
  · intro standing member record stored
    rcases List.mem_cons.mp member with rfl | old
    · cases stored
    · exact lineage.logged standing old record stored
  · rcases lineage.makers entry listed with ⟨stage, member⟩
    exact ⟨stage, List.mem_cons_of_mem _ member⟩
  · intro token stage member
    have found : token ∈ earlier ∨ GivenOut standings (service.tokenDigest token) := by
      rcases List.mem_cons.mp member with same | old
      · exact presented token (Prod.mk.inj same).1.symm
      · exact lineage.presented token stage old
    exact found.imp id fun given => given.mono (List.subset_cons_self _ _)
  · intro token stage member given
    rcases List.mem_cons.mp member with same | old
    · cases same
      exact absurd rfl given
    · exact lineage.spent token stage old given
  · rcases lineage.held entry listed stored with ⟨stage, member, holds⟩
    exact ⟨stage, List.mem_cons_of_mem _ member, holds⟩

/-- A call that draws a token is about to store it. -/
theorem draw (lineage : Lineage service start earlier past made world ((call, stage) :: others))
    {bytes : Bytes} {next : Stage} (moved : call.Draws service stage bytes next) :
    Lineage service start earlier (past ++ [(call, bytes)]) made world ((call, next) :: others) := by
  cases moved with
  | unrelated other => exact lineage.extend _
  | minted opens foundUser foundApp =>
    refine ⟨fun digest => ?_, lineage.known, ?_, fun entry listed => lineage.makers_step _ listed,
      fun token after member => lineage.presented_step rfl _ member, ?_, fun entry listed stored => ?_⟩
    · have accounted := lineage.accounted digest
      rw [count_unbornDigests_cons] at accounted ⊢
      rw [ServiceCall.drawn_append, ServiceCall.drawn_of_opensSession service digest opens]
      simp only [Stage.unborn?, Option.toList_none, Option.toList_some, List.map_nil, List.map_cons,
        List.count_nil, List.count_singleton, beq_iff_eq] at accounted ⊢
      omega
    · intro standing member record stored
      rcases List.mem_cons.mp member with rfl | old
      · cases stored
      · exact lineage.logged standing (List.mem_cons_of_mem _ old) record stored
    · intro token after member given
      rcases List.mem_cons.mp member with same | old
      · cases same
        exact absurd rfl given
      · exact lineage.spent token after (List.mem_cons_of_mem _ old) given
    · rcases lineage.held entry listed stored with ⟨before, member, holds⟩
      rcases List.mem_cons.mp member with same | old
      · cases same
        cases holds
      · exact ⟨before, List.mem_cons_of_mem _ old, holds⟩

variable (unused : service.Unused start earlier (ServiceCall.tokensOf past))

include unused

omit unused in
theorem exists_drawn (lineage : Lineage service start earlier past made world standings) {digest : String}
    (counted : 0 < (createdDigests made).count digest + (unbornDigests standings).count digest) :
    ∃ token ∈ ServiceCall.tokensOf past, service.tokenDigest token = digest := by
  have drawn : digest ∈ (ServiceCall.tokensOf past).map service.tokenDigest :=
    List.count_pos_iff.mp (Nat.lt_of_lt_of_le counted (lineage.accounted digest))
  exact List.mem_map.mp drawn

/-- The digest of a token that is about to be stored is a new one. -/
theorem not_wasStored (lineage : Lineage service start earlier past made world standings)
    {record : NewRefreshToken} (member : (call, stage) ∈ standings)
    (unborn : stage.unborn? = some record) : ¬WasStored start made record.digest := by
  have listed : record.digest ∈ unbornDigests standings :=
    List.mem_filterMap.mpr ⟨(call, stage), member, by rw [unborn, Option.map_some]⟩
  have waiting : 0 < (unbornDigests standings).count record.digest := List.count_pos_iff.mpr listed
  have accounted := lineage.accounted record.digest
  have once : ServiceCall.drawn service record.digest past ≤ 1 :=
    List.nodup_iff_count_le_one.mp unused.distinct record.digest
  rintro (inStore | created)
  · rcases lineage.exists_drawn (Nat.lt_of_lt_of_le waiting (Nat.le_add_left _ _)) with ⟨token, drawn, same⟩
    exact inStore (same ▸ unused.unstored token drawn)
  · have before : 0 < (createdDigests made).count record.digest := List.count_pos_iff.mpr created
    omega

theorem absent (lineage : Lineage service start earlier past made world standings)
    {record : NewRefreshToken} (member : (call, stage) ∈ standings)
    (unborn : stage.unborn? = some record) : world.record? record.digest = none := by
  cases found : world.record? record.digest with
  | none => rfl
  | some stored =>
    have known := lineage.known record.digest (fun none => nomatch none.symm.trans found)
    exact absurd known (lineage.not_wasStored unused member unborn)

/-- Of the tokens that were stored, each has a digest of its own. -/
theorem eq_of_digest_eq (lineage : Lineage service start earlier past made world standings)
    {first second : ServiceCall × NewRefreshToken} (one : first ∈ made) (other : second ∈ made)
    (same : first.2.digest = second.2.digest) : first = second := by
  have distinct : (createdDigests made).Nodup := by
    refine List.nodup_iff_count_le_one.mpr fun digest => ?_
    have once : ServiceCall.drawn service digest past ≤ 1 :=
      List.nodup_iff_count_le_one.mp unused.distinct digest
    exact Nat.le_trans (Nat.le_add_right _ _) (Nat.le_trans (lineage.accounted digest) once)
  exact List.inj_on_of_nodup_map distinct one other same

/-- A token that is gone is not stored again. -/
theorem isGone_called (lineage : Lineage service start earlier past made world ((call, stage) :: others))
    {request : StoreCall} (allowed : call.Allows service stage request) {digest : String}
    (gone : IsGone start made world digest) :
    (world.endCall request .carriedOut).2.record? digest = none := by
  cases found : (world.endCall request .carriedOut).2.record? digest with
  | none => rfl
  | some stored =>
    cases creates : request.created? with
    | none => cases gone.1.symm.trans (world.record?_of_endCall creates .carriedOut found)
    | some record =>
      have unborn := allowed.unborn?_of_created? creates
      have new := lineage.not_wasStored unused List.mem_cons_self unborn
      have different : digest ≠ record.digest := fun same => new (same ▸ gone.2)
      rcases request with request | request
      · cases creates
      · cases request <;> cases creates
        rw [world.record?_create_of_ne record .carriedOut different, gone.1] at found
        cases found

/-- A call that is not to store a token. -/
theorem called_plain (lineage : Lineage service start earlier past made world ((call, stage) :: others))
    {request : StoreCall} (allowed : call.Allows service stage request) (plain : request.created? = none) :
    Lineage service start earlier past made (world.endCall request .carriedOut).2
      ((call, stage.replied request (world.endCall request .carriedOut).1) :: others) := by
  let later := (world.endCall request .carriedOut).2
  have less (digest : String) (stored : later.record? digest ≠ none) : world.record? digest ≠ none := by
    intro none
    cases found : later.record? digest with
    | none => exact stored found
    | some record => cases none.symm.trans (world.record?_of_endCall plain .carriedOut found)
  have gone {digest : String} (before : IsGone start made world digest) : IsGone start made later digest :=
    ⟨lineage.isGone_called unused allowed before, before.2⟩
  have kept := allowed.stored?_replied plain (world.endCall request .carriedOut).1
  refine ⟨fun digest => ?_, fun digest stored => lineage.known digest (less digest stored), ?_, ?_, ?_, ?_, ?_⟩
  · have accounted := lineage.accounted digest
    rw [count_unbornDigests_cons] at accounted ⊢
    rcases Stage.unborn?_replied stage request (world.endCall request .carriedOut).1 with none | same
    · rw [none]
      simp only [Option.toList_none, List.map_nil, List.count_nil]
      omega
    · rw [same]
      exact accounted
  · intro standing member record stored
    rcases List.mem_cons.mp member with rfl | old
    · rcases kept with same | ⟨none, _⟩
      · exact lineage.logged _ List.mem_cons_self record (same ▸ stored)
      · cases none.symm.trans stored
    · exact lineage.logged standing (List.mem_cons_of_mem _ old) record stored
  · exact fun entry listed => lineage.makers_step _ listed
  · exact fun token after member => lineage.presented_step allowed.given?_eq_none _ member
  · intro token after member given
    rcases List.mem_cons.mp member with same | old
    · cases same
      rcases Option.ne_none_iff_exists'.mp given with ⟨record, gives⟩
      rcases allowed.given?_replied gives with ⟨rfl, stored⟩
      exact ⟨world.record?_deleteByToken rfl, lineage.known _ stored⟩
    · exact gone (lineage.spent token after (List.mem_cons_of_mem _ old) given)
  · intro entry listed stored
    rcases lineage.held entry listed (less _ stored) with ⟨before, member, holds⟩
    rcases List.mem_cons.mp member with same | old
    · cases same
      rcases kept with unchanged | ⟨_, takesBack⟩
      · exact ⟨_, List.mem_cons_self, unchanged.trans holds⟩
      · cases takesBack _ holds
        exact absurd (world.record?_deleteByToken rfl) stored
    · exact ⟨before, List.mem_cons_of_mem _ old, holds⟩

/-- A call that stores its token succeeds, and holds it from then on. -/
theorem called_create (lineage : Lineage service start earlier past made world ((call, stage) :: others))
    {record : NewRefreshToken} (allowed : call.Allows service stage (.tokens (.create record))) :
    Lineage service start earlier past (made ++ [(call, record)])
      (world.endCall (.tokens (.create record)) .carriedOut).2
      ((call, stage.replied (.tokens (.create record))
        (world.endCall (.tokens (.create record)) .carriedOut).1) :: others) := by
  have unborn := allowed.unborn?_of_created? rfl
  have free := lineage.absent unused List.mem_cons_self unborn
  have new := lineage.not_wasStored unused List.mem_cons_self unborn
  rcases allowed.replied_of_created? rfl () with ⟨stores, born, keeps⟩
  rw [world.create_reply record free]
  have logged : createdDigests (made ++ [(call, record)]) = createdDigests made ++ [record.digest] := by
    rw [createdDigests, List.map_append]
    rfl
  refine ⟨fun digest => ?_, fun digest stored => ?_, ?_, ?_, ?_, ?_, ?_⟩
  · have accounted := lineage.accounted digest
    rw [count_unbornDigests_cons, unborn] at accounted
    rw [count_unbornDigests_cons, born, logged, List.count_append]
    simp only [Option.toList_some, Option.toList_none, List.map_cons, List.map_nil, List.count_nil]
      at accounted ⊢
    omega
  · rcases Option.ne_none_iff_exists'.mp stored with ⟨found, there⟩
    rcases world.record?_of_create record .carriedOut there with before | ⟨same, _⟩
    · exact (lineage.known digest fun none => nomatch none.symm.trans before).more _
    · refine .inr ?_
      rw [logged, ← same]
      exact List.mem_append_right _ List.mem_cons_self
  · intro standing member other holds
    rcases List.mem_cons.mp member with rfl | old
    · cases stores.symm.trans holds
      exact List.mem_append_right _ List.mem_cons_self
    · exact List.mem_append_left _ (lineage.logged standing (List.mem_cons_of_mem _ old) other holds)
  · intro entry listed
    rcases List.mem_append.mp listed with old | new
    · exact lineage.makers_step _ old
    · rw [List.mem_singleton.mp new]
      exact ⟨_, List.mem_cons_self⟩
  · exact fun token after member => lineage.presented_step allowed.given?_eq_none _ member
  · intro token after member given
    rcases List.mem_cons.mp member with same | old
    · cases same
      exact absurd (keeps rfl) given
    · have gone := lineage.spent token after (List.mem_cons_of_mem _ old) given
      exact ⟨lineage.isGone_called unused allowed gone, gone.2.more _⟩
  · intro entry listed stored
    rcases List.mem_append.mp listed with old | new
    · have different : entry.2.digest ≠ record.digest := fun same =>
        new (.inr (same ▸ List.mem_map.mpr ⟨entry, old, rfl⟩))
      rw [world.record?_create_of_ne record .carriedOut different] at stored
      rcases lineage.held entry old stored with ⟨before, member, holds⟩
      rcases List.mem_cons.mp member with same | old
      · cases same
        cases (Stage.stored?_of_unborn? unborn).symm.trans holds
      · exact ⟨before, List.mem_cons_of_mem _ old, holds⟩
    · rw [List.mem_singleton.mp new]
      exact ⟨_, List.mem_cons_self, stores⟩

/-- A store call that is carried out keeps the accounts. -/
theorem called (lineage : Lineage service start earlier past made world ((call, stage) :: others))
    {request : StoreCall} (allowed : call.Allows service stage request) :
    Lineage service start earlier past (made ++ (request.created?.map (call, ·)).toList)
      (world.endCall request .carriedOut).2
      ((call, stage.replied request (world.endCall request .carriedOut).1) :: others) := by
  cases creates : request.created? with
  | none =>
    rw [Option.map_none, Option.toList_none, List.append_nil]
    exact lineage.called_plain unused allowed creates
  | some record =>
    rcases request with request | request
    · cases creates
    · cases request <;> cases creates
      exact lineage.called_create unused allowed

end Lineage

/-- A refresh begins with a token that was returned earlier, or that an answered call handed out. -/
def System.PresentsKnown (earlier : List String) (system : System) (event : Event) : Prop :=
  ∀ token ∈ event.presented?, token ∈ earlier ∨ system.HandedOut token

instance (earlier : List String) (system : System) (event : Event) :
    Decidable (system.PresentsKnown earlier event) :=
  inferInstanceAs (Decidable (∀ token ∈ event.presented?, token ∈ earlier ∨ system.HandedOut token))

/-- An event that meets the conditions keeps the accounts, as long as no token was drawn twice. -/
theorem Lineage.kept {service : Service} {start : World} {earlier : List String}
    {past : List (ServiceCall × Bytes)} {made : List (ServiceCall × NewRefreshToken)} {system : System}
    {event : Event} {standings later : List (ServiceCall × Stage)} {world : World}
    (smooth : event.IsSmooth) (presents : system.PresentsKnown earlier event)
    (tracks : service.stages.Tracks system.processes standings)
    (move : service.stages.Move system event standings world later)
    (unused : service.Unused start earlier (ServiceCall.tokensOf past))
    (before : Lineage service start earlier past made system.world standings) :
    Lineage service start earlier (past ++ (system.drawn? event).toList)
      (made ++ (system.created? event).toList) world later := by
  cases move with
  | began call told =>
    subst told
    refine Lineage.congr ?_ (List.perm_append_singleton _ _)
    rw [show system.created? (.begin call) = none from rfl, Option.toList_none, List.append_nil]
    refine (before.join call fun token same => ?_).extend _
    rcases presents token (by rw [same]; rfl) with returned | handed
    · exact .inl returned
    · exact .inr (given_of_handedOut tracks handed)
  | clockSet now told =>
    subst told
    rw [show system.created? (.setClock now) = none from rfl, Option.toList_none, List.append_nil]
    exact (before.frame { system.world with now := now } rfl).extend _
  | stayed unasked =>
    rw [System.created?_of_none (by rw [unasked, Option.bind_none]), Option.toList_none, List.append_nil]
    exact before.extend _
  | drew first call stage next after bytes drawn moved =>
    rw [drawn, System.created?_of_none (by rw [System.request?_of_drawn? drawn, Option.bind_none]),
      Option.toList_none, List.append_nil]
    have moving := (before.congr List.perm_middle.symm).draw moved
    have settled := moving.frame { system.world with draws := system.world.draws + 1 } rfl
    exact settled.congr List.perm_middle
  | called first call stage after request ending told requested allowed =>
    subst told
    cases smooth
    rcases tracks.getElem? (getElem?_append_cons_length first _ after) with ⟨rest, found, _⟩
    have moves : system.mover? (.proceed first.length .carriedOut) = some ⟨call, rest⟩ := found
    rw [System.created?_of_mover? moves requested]
    have moving := (before.congr List.perm_middle.symm).called unused allowed
    exact (moving.congr List.perm_middle).extend _

/-- A store call that a refresh makes succeeds when it is carried out. -/
theorem Lineage.servesRefresh {service : Service} {start : World} {earlier : List String}
    {past : List (ServiceCall × Bytes)} {made : List (ServiceCall × NewRefreshToken)} {system : System}
    {event : Event} {standings : List (ServiceCall × Stage)}
    (lineage : Lineage service start earlier past made system.world standings)
    (unused : service.Unused start earlier (ServiceCall.tokensOf past)) (smooth : event.IsSmooth)
    (tracks : service.stages.Tracks system.processes standings) : system.ServesRefresh event := by
  rintro number ending token rest request rfl found asked
  cases smooth
  rcases tracks.of_process (List.mem_of_getElem? found) with ⟨stage, member, follows⟩
  have allowed : (ServiceCall.refresh token).Allows service stage request := by
    cases rest with
    | call patience made next =>
      cases asked
      exact follows.1
    | done answer => cases asked
    | clock next => cases asked
    | draw count next => cases asked
  cases allowed with
  | asked asks =>
    rcases request with request | request
    · cases request <;> first | exact ⟨_, rfl⟩ | exact False.elim asks
    · cases request <;> first | exact ⟨_, rfl⟩ | exact False.elim asks
  | placed => exact ⟨(), system.world.create_reply _ (lineage.absent unused member rfl)⟩
  | exchanged => exact ⟨_, system.world.deleteByToken_reply _ .carriedOut⟩
  | takenBack => exact ⟨_, system.world.deleteByToken_reply _ .carriedOut⟩

end SingleSignOn

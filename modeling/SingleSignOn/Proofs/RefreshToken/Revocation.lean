import SingleSignOn.Proofs.RefreshToken.Lineage

namespace SingleSignOn

/-!
# A revocation outlasts every rotation

A change of password, a deletion or a login removes tokens of a user or an app
all at once, whatever refreshes are in progress.  A refresh may have looked up
its token before and store the new one after that.  But it must find the
presented token to remove it, and there is none, so it takes the new one back.

`Aftermath` says what is so from the revocation on, for a token that was
removed: it stays away, no refresh gives out a token for it, and a refresh
that begins later finds nothing.
-/

/-- Whether a call that removes many tokens covers a record. -/
def TokenCall.revokes : TokenCall -> RefreshToken -> Bool
  | .deleteByUser userId, record => record.userId == userId
  | .deleteByApp appId, record => record.appId == appId
  | .deleteByOwner userId appId, record => record.userId == userId && record.appId == appId
  | _, _ => false

theorem TokenCall.effect_of_revokes {request : TokenCall} {record : RefreshToken}
    (revokes : request.revokes record = true) (now : Instant) (digest : String) :
    request.effect now digest (some record) = none := by
  cases request with
  | deleteByUser | deleteByApp | deleteByOwner =>
    simp only [TokenCall.revokes] at revokes
    simp only [TokenCall.effect, Option.filter_some, revokes, Bool.not_true, Bool.false_eq_true,
      if_false]
  | _ => cases revokes

/-- No refresh makes a call that removes many tokens. -/
theorem ServiceCall.Allows.revokes_eq_false {service : Service} {token : String} {stage : Stage}
    {request : TokenCall} (allowed : (ServiceCall.refresh token).Allows service stage (.tokens request))
    (record : RefreshToken) : request.revokes record = false := by
  cases allowed with
  | asked asks => cases request <;> first | rfl | exact False.elim asks
  | placed => rfl
  | exchanged => rfl
  | takenBack => rfl

/-- A token comes from another by rotations, none or more of them. -/
inductive Descends (service : Service) (made : List (ServiceCall × NewRefreshToken)) (digest : String) :
    String -> Prop where
  | itself : Descends service made digest digest
  | rotated {token : String} {record : NewRefreshToken}
    (origin : Descends service made digest (service.tokenDigest token))
    (stored : (.refresh token, record) ∈ made) : Descends service made digest record.digest

/-- A call that holds no token and has not found the one that it presents. -/
def Stage.IsEmptyHanded : Stage -> Prop
  | .asking findings => findings.presented = none ∧ findings.user = none
  | .removed _ => True
  | .ending => True
  | _ => False

theorem Stage.own?_of_isEmptyHanded {stage : Stage} (empty : stage.IsEmptyHanded) : stage.own? = none := by
  cases stage <;> first | rfl | exact False.elim empty

/-- A refresh draws a token only for the user of a token that it has found. -/
theorem ServiceCall.Draws.not_isEmptyHanded {service : Service} {token : String} {stage next : Stage}
    {bytes : Bytes} (moved : (ServiceCall.refresh token).Draws service stage bytes next) :
    ¬stage.IsEmptyHanded := by
  intro empty
  cases moved with
  | minted opens foundUser foundApp => cases empty.2.symm.trans foundUser
  | unrelated other => cases other

/-- A refresh whose token is not stored goes on without one. -/
theorem ServiceCall.Allows.isEmptyHanded_replied {service : Service} {token : String} {stage : Stage}
    {request : StoreCall} {world : World}
    (allowed : (ServiceCall.refresh token).Allows service stage request)
    (absent : world.record? (service.tokenDigest token) = none) (empty : stage.IsEmptyHanded) :
    (stage.replied request (world.endCall request .carriedOut).1).IsEmptyHanded := by
  cases allowed with
  | asked asks =>
    rcases request with request | request
    · cases request with
      | findUserById asked =>
        rcases asks with ⟨presented, found, _⟩
        cases empty.1.symm.trans found
      | findAppById asked =>
        rcases asks with ⟨presented, found, _⟩
        cases empty.1.symm.trans found
      | isAdmin userId appId => exact empty
      | _ => exact False.elim asks
    · cases request with
      | find digest =>
        cases asks
        exact ⟨absent, empty.2⟩
      | deleteByToken gone => trivial
      | _ => exact False.elim asks
  | placed => exact False.elim empty
  | exchanged => exact False.elim empty
  | takenBack => exact False.elim empty

/-- What is so once a token was revoked while so many calls had begun. -/
structure Aftermath (service : Service) (start : World) (made : List (ServiceCall × NewRefreshToken))
    (digest : String) (count : Nat) (world : World) (standings : List (ServiceCall × Stage)) : Prop where
  gone : IsGone start made world digest
  begun : count ≤ standings.length
  unspent : forall token stage, (.refresh token, stage) ∈ standings ->
    service.tokenDigest token = digest -> stage.given? = none
  late : forall number token stage, count ≤ number -> standings[number]? = some (.refresh token, stage) ->
    service.tokenDigest token = digest -> stage.IsEmptyHanded

/-! ## The revocation -/

section Steps

variable {service : Service} {start : World} {earlier : List String}
  {past : List (ServiceCall × Bytes)} {made : List (ServiceCall × NewRefreshToken)} {system : System}
  {event : Event} {standings later : List (ServiceCall × Stage)} {world : World} {digest : String}

theorem IsGone.more (gone : IsGone start made world digest) (more : List (ServiceCall × NewRefreshToken)) :
    IsGone start (made ++ more) world digest :=
  ⟨gone.1, gone.2.more more⟩

/-- A revocation of a stored token begins its aftermath. -/
theorem Aftermath.begin (lineage : Lineage service start earlier past made system.world standings)
    (smooth : event.IsSmooth) (move : service.stages.Move system event standings world later)
    {request : TokenCall} (asked : system.request? event = some (.tokens request)) {record : RefreshToken}
    (stored : system.world.record? digest = some record) (revokes : request.revokes record = true) :
    Aftermath service start (made ++ (system.created? event).toList) digest standings.length world later := by
  cases move with
  | began call told =>
    subst told
    cases asked
  | clockSet now told =>
    subst told
    cases asked
  | stayed unasked => cases unasked.symm.trans asked
  | drew first call stage next after bytes drawn moved =>
    cases (System.request?_of_drawn? drawn).symm.trans asked
  | called first call reached after other ending told requested allowed =>
    subst told
    cases smooth
    cases requested.symm.trans asked
    have removed : (system.world.endCall (.tokens request) .carriedOut).2.record? digest = none := by
      rw [World.record?_endCall, stored]
      exact request.effect_of_revokes revokes _ digest
    have known := lineage.known digest fun none => nomatch none.symm.trans stored
    have gone : IsGone start made _ digest := ⟨removed, known⟩
    refine ⟨gone.more _, ?_, fun token stage member same => ?_, fun number token stage more found => ?_⟩
    · rw [List.length_append, List.length_append]
      exact Nat.le_refl _
    · rcases eq_or_mem_of_middle first after (call, reached) _ member with moving | listed
      · cases moving
        cases (allowed.revokes_eq_false record).symm.trans revokes
      · by_contra given
        have gone := (lineage.spent token stage listed given).1
        rw [same, stored] at gone
        cases gone
    · have inside := (List.getElem?_eq_some_iff.mp found).1
      rw [List.length_append, List.length_cons] at inside more
      omega

/-- Whatever is stored from then on does not matter. -/
theorem Aftermath.more {count : Nat} (aftermath : Aftermath service start made digest count world standings)
    (more : List (ServiceCall × NewRefreshToken)) :
    Aftermath service start (made ++ more) digest count world standings :=
  ⟨aftermath.gone.more more, aftermath.begun, aftermath.unspent, aftermath.late⟩

/-- A refresh that begins has found nothing yet. -/
theorem Aftermath.join {count : Nat} (aftermath : Aftermath service start made digest count world standings)
    (call : ServiceCall) :
    Aftermath service start made digest count world (standings ++ [(call, .start)]) := by
  refine ⟨aftermath.gone, ?_, fun token stage member same => ?_, fun number token stage more found same => ?_⟩
  · rw [List.length_append]
    exact Nat.le_trans aftermath.begun (Nat.le_add_right _ _)
  · rcases List.mem_append.mp member with old | new
    · exact aftermath.unspent token stage old same
    · cases List.mem_singleton.mp new
      rfl
  · by_cases old : number < standings.length
    · rw [List.getElem?_append_left old] at found
      exact aftermath.late number token stage more found same
    · rw [List.getElem?_append_right (Nat.not_lt.mp old)] at found
      cases List.mem_singleton.mp (List.mem_of_getElem? found)
      exact ⟨rfl, rfl⟩

/-- A call may go on if, as a refresh with the revoked token, it gives nothing
out and does not come to hold anything. -/
theorem Aftermath.change {count : Nat} {first after : List (ServiceCall × Stage)} {call : ServiceCall}
    {stage next : Stage} {changed : World}
    (aftermath : Aftermath service start made digest count world (first ++ (call, stage) :: after))
    (gone : changed.record? digest = none)
    (withholds : forall token, call = .refresh token -> service.tokenDigest token = digest ->
      next.given? = none)
    (finds : forall token, call = .refresh token -> service.tokenDigest token = digest ->
      stage.IsEmptyHanded -> next.IsEmptyHanded) :
    Aftermath service start made digest count changed (first ++ (call, next) :: after) := by
  refine ⟨⟨gone, aftermath.gone.2⟩, ?_, fun token reached member same => ?_,
    fun number token reached more found same => ?_⟩
  · have begun := aftermath.begun
    rwa [List.length_append] at begun ⊢
  · rcases eq_or_mem_of_middle first after (call, stage) _ member with moving | old
    · cases moving
      exact withholds token rfl same
    · exact aftermath.unspent token reached old same
  · rcases eq_or_getElem?_of_middle first after (call, stage) _ found with ⟨rfl, moving⟩ | old
    · cases moving
      have here := getElem?_append_cons_length first (.refresh token, stage) after
      exact finds token rfl same (aftermath.late _ token stage more here same)
    · exact aftermath.late number token reached more old same

/-- The aftermath of a revocation lasts. -/
theorem Aftermath.kept {count : Nat}
    (lineage : Lineage service start earlier past made system.world standings)
    (unused : service.Unused start earlier (ServiceCall.tokensOf past)) (smooth : event.IsSmooth)
    (move : service.stages.Move system event standings world later)
    (before : Aftermath service start made digest count system.world standings) :
    Aftermath service start (made ++ (system.created? event).toList) digest count world later := by
  refine Aftermath.more ?_ _
  have absent := before.gone.1
  cases move with
  | began call told => exact before.join call
  | clockSet now told => exact ⟨before.gone, before.begun, before.unspent, before.late⟩
  | stayed unasked => exact before
  | drew first call stage next after bytes drawn moved =>
    refine before.change absent (fun token refreshes same => ?_) fun token refreshes same empty => ?_
    · cases moved <;> rfl
    · subst refreshes
      exact absurd empty moved.not_isEmptyHanded
  | called first call stage after request ending told requested allowed =>
    subst told
    cases smooth
    have gone := (lineage.congr List.perm_middle.symm).isGone_called unused allowed before.gone
    refine before.change gone (fun token refreshes same => ?_) fun token refreshes same empty => ?_
    · subst refreshes
      by_contra given
      rcases Option.ne_none_iff_exists'.mp given with ⟨record, gives⟩
      exact (allowed.given?_replied gives).2 (same ▸ absent)
    · subst refreshes
      exact allowed.isEmptyHanded_replied (same ▸ absent) empty

/-! ## What is left of a revoked token -/

/-- A token that was stored for a revoked one was not given out, so no
rotation goes further than the first. -/
theorem Aftermath.descends_cases {count : Nat}
    (lineage : Lineage service start earlier past made world standings)
    (unused : service.Unused start earlier (ServiceCall.tokensOf past))
    (aftermath : Aftermath service start made digest count world standings) {heir : String}
    (descends : Descends service made digest heir) :
    heir = digest ∨ ∃ token record, (.refresh token, record) ∈ made ∧
      service.tokenDigest token = digest ∧ record.digest = heir := by
  induction descends with
  | itself => exact .inl rfl
  | @rotated token record origin stored hypothesis =>
    rcases hypothesis with same | ⟨first, middle, made', same, presented⟩
    · exact .inr ⟨token, record, stored, same, rfl⟩
    · exfalso
      rcases lineage.makers _ stored with ⟨stage, member⟩
      rcases lineage.presented token stage member with returned | ⟨⟨giver, given⟩, listed, other, gives, shown⟩
      · have counted : 0 < (createdDigests made).count middle.digest :=
          List.count_pos_iff.mpr (List.mem_map.mpr ⟨_, made', rfl⟩)
        rcases lineage.exists_drawn (Nat.lt_of_lt_of_le counted (Nat.le_add_right _ _)) with
          ⟨drawn, draws, own⟩
        exact unused.unreturned drawn draws token returned (presented.symm.trans own.symm)
      · have logged := lineage.logged _ listed other (Stage.stored?_of_given? gives)
        have one := lineage.eq_of_digest_eq unused logged made' (shown.trans presented.symm)
        cases one
        cases (aftermath.unspent first given listed same).symm.trans gives

end Steps

/-- Every refresh among the first so many calls is answered. -/
def System.RefreshesAnswered (count : Nat) (system : System) : Prop :=
  ∀ number < count, ∀ process ∈ system.processes[number]?,
    process.call.isRefresh = true -> process.isFinished = true

instance (count : Nat) (system : System) : Decidable (system.RefreshesAnswered count) :=
  inferInstanceAs (Decidable (∀ number < count, ∀ process ∈ system.processes[number]?,
    process.call.isRefresh = true -> process.isFinished = true))

section Endings

variable {service : Service} {start : World} {earlier : List String}
  {past : List (ServiceCall × Bytes)} {made : List (ServiceCall × NewRefreshToken)} {system : System}
  {standings : List (ServiceCall × Stage)} {digest : String} {count : Nat}
  (lineage : Lineage service start earlier past made system.world standings)
  (tracks : service.stages.Tracks system.processes standings)
  (aftermath : Aftermath service start made digest count system.world standings)

include lineage tracks aftermath in
/-- Once the refreshes of before are answered, nothing is left of the revoked token. -/
theorem Aftermath.record?_of_descends (unused : service.Unused start earlier (ServiceCall.tokensOf past))
    (answered : system.RefreshesAnswered count) {heir : String} (descends : Descends service made digest heir) :
    system.world.record? heir = none := by
  rcases aftermath.descends_cases lineage unused descends with rfl | ⟨token, record, stored, same, rfl⟩
  · exact aftermath.gone.1
  by_contra still
  rcases lineage.held _ stored still with ⟨stage, member, holds⟩
  have unspent := aftermath.unspent token stage member same
  rcases Stage.given_or_pending holds with given | pending
  · cases unspent.symm.trans given
  rcases List.getElem?_of_mem member with ⟨number, stands⟩
  by_cases early : number < count
  · rcases tracks.getElem? stands with ⟨rest, found, follows⟩
    have finished := answered number early ⟨.refresh token, rest⟩ found rfl
    cases (pending?_of_isFinished follows finished).symm.trans pending
  · have empty := aftermath.late number token stage (Nat.not_lt.mp early) stands same
    cases (Stage.own?_of_isEmptyHanded empty).symm.trans (Stage.own?_of_pending? pending)

include tracks aftermath in
/-- Every refresh with the revoked token that is answered was refused. -/
theorem Aftermath.refuses (polite : ∀ process ∈ system.processes, process.OnlyRefuses service) {token : String}
    {answer : Except Error Session} (member : ⟨.refresh token, .done answer⟩ ∈ system.processes)
    (same : service.tokenDigest token = digest) : answer = .error .invalidCredentials := by
  cases answer with
  | error error => exact congrArg Except.error (polite _ member rfl)
  | ok session =>
    rcases tracks.of_process member with ⟨stage, listed, follows⟩
    rcases follows with ⟨record, removed, rfl, _⟩
    cases aftermath.unspent token _ listed same

end Endings

/-! ## Whole runs -/

/-- What is asked of every event of a run. -/
structure System.Admits (service : Service) (earlier : List String) (system : System) (event : Event) :
    Prop where
  smooth : event.IsSmooth
  presents : system.PresentsKnown earlier event
  readable : system.ReadsIssuable service event

/-- The accounts are in order, and refreshes fail only by refusing. -/
structure Accounted (service : Service) (start : World) (earlier : List String)
    (past : List (ServiceCall × Bytes)) (made : List (ServiceCall × NewRefreshToken)) (system : System)
    (standings : List (ServiceCall × Stage)) : Prop where
  lineage : Lineage service start earlier past made system.world standings
  polite : ∀ process ∈ system.processes, process.OnlyRefuses service

theorem Accounted.kept {service : Service} {start : World} {earlier : List String}
    {past : List (ServiceCall × Bytes)} {made : List (ServiceCall × NewRefreshToken)} {system : System}
    {event : Event} {standings later : List (ServiceCall × Stage)}
    (admits : system.Admits service earlier event)
    (tracks : service.stages.Tracks system.processes standings)
    (move : service.stages.Move system event standings (system.step service event).world later)
    (unused : service.Unused start earlier (ServiceCall.tokensOf past))
    (before : Accounted service start earlier past made system standings) :
    Accounted service start earlier (past ++ (system.drawn? event).toList)
      (made ++ (system.created? event).toList) (system.step service event) later := by
  have serves := before.lineage.servesRefresh unused admits.smooth tracks
  exact ⟨Lineage.kept admits.smooth admits.presents tracks move unused before.lineage,
    System.onlyRefuses_step admits.readable serves before.polite⟩

theorem Service.Unused.of_draws {service : Service} {start : World} {earlier : List String}
    {past more : List (ServiceCall × Bytes)}
    (unused : service.Unused start earlier (ServiceCall.tokensOf (past ++ more))) :
    service.Unused start earlier (ServiceCall.tokensOf past) := by
  rw [ServiceCall.tokensOf_append] at unused
  exact unused.of_append

theorem Accounted.start (service : Service) (world : World) (earlier : List String) :
    Accounted service world earlier [] [] (System.start world) [] := by
  refine ⟨⟨fun _ => Nat.zero_le _, fun digest stored => .inl stored, ?_, ?_, ?_, ?_, ?_⟩, ?_⟩
  · exact fun _ none => absurd none List.not_mem_nil
  · exact fun _ none => absurd none List.not_mem_nil
  · exact fun _ _ none => absurd none List.not_mem_nil
  · exact fun _ _ none => absurd none List.not_mem_nil
  · exact fun _ none => absurd none List.not_mem_nil
  · exact fun _ none => absurd none List.not_mem_nil

/-- A run that meets the conditions keeps the accounts, and whatever else its events keep. -/
theorem Accounted.run {service : Service} {start : World} {earlier : List String}
    {past : List (ServiceCall × Bytes)} {made : List (ServiceCall × NewRefreshToken)} {system : System}
    {standings : List (ServiceCall × Stage)} {events : List Event}
    (holds : List (ServiceCall × NewRefreshToken) -> World -> List (ServiceCall × Stage) -> Prop)
    (kept : forall past made system event standings later, System.Admits service earlier system event ->
      service.Unused start earlier (ServiceCall.tokensOf past) ->
      Lineage service start earlier past made system.world standings ->
      service.stages.Move system event standings (system.step service event).world later ->
      holds made system.world standings ->
      holds (made ++ (system.created? event).toList) (system.step service event).world later)
    (always : system.Throughout service (System.Admits service earlier) events)
    (unused : service.Unused start earlier (ServiceCall.tokensOf (past ++ system.draws service events)))
    (tracks : service.stages.Tracks system.processes standings)
    (accounted : Accounted service start earlier past made system standings)
    (begins : holds made system.world standings) :
    ∃ final, service.stages.Tracks (system.run service events).processes final ∧
      Accounted service start earlier (past ++ system.draws service events)
        (made ++ system.creations service events) (system.run service events) final ∧
      holds (made ++ system.creations service events) (system.run service events).world final := by
  let reaches (so : List Event) (standings : List (ServiceCall × Stage)) : Prop :=
    service.Unused start earlier (ServiceCall.tokensOf (past ++ system.draws service so)) ->
      Accounted service start earlier (past ++ system.draws service so)
        (made ++ system.creations service so) (system.run service so) standings ∧
      holds (made ++ system.creations service so) (system.run service so).world standings
  have step (so : List Event) (event : Event) (before later : List (ServiceCall × Stage))
      (admits : (system.run service so).Admits service earlier event)
      (tracks : service.stages.Tracks (system.run service so).processes before)
      (move : service.stages.Move (system.run service so) event before
        ((system.run service so).step service event).world later)
      (reached : reaches so before) : reaches (so ++ [event]) later := by
    intro fresh
    rw [System.draws_append_singleton, ← List.append_assoc] at fresh
    rcases reached fresh.of_draws with ⟨accounted, held⟩
    rw [System.draws_append_singleton, System.creations_append_singleton, ← List.append_assoc,
      ← List.append_assoc, System.run_append]
    exact ⟨Accounted.kept admits tracks move fresh.of_draws accounted,
      kept _ _ _ event _ _ admits fresh.of_draws accounted.lineage move held⟩
  have first : reaches [] standings := by
    intro fresh
    rw [System.draws, System.creations, List.append_nil, List.append_nil]
    exact ⟨accounted, begins⟩
  rcases tracks.run reaches step always first with ⟨final, tracked, reached⟩
  exact ⟨final, tracked, reached unused⟩

/-- A token that a revocation removes is gone for good, and so is whatever a
refresh makes of it.  Any calls may be in progress, at any point; no store
call fails, refreshes present tokens that were returned before, no token is
drawn twice, and whenever a refresh looks at the clock the expiries of a
session can be represented.  A refresh with the removed token is refused if it
is answered at all.  Once the refreshes that had begun are answered, neither
the token is stored nor any that rotations have made of it. -/
theorem revocation_outlasts_rotation (service : Service) (world : World) (earlier : List String)
    (before after : List Event) (revocation : Event) (request : TokenCall) (digest : String)
    (record : RefreshToken) (final : System)
    (ran : (System.start world).run service (before ++ revocation :: after) = final)
    (smooth : ∀ event ∈ before ++ revocation :: after, event.IsSmooth)
    (unused : service.Unused world earlier
      ((System.start world).generated service (before ++ revocation :: after)))
    (presented : (System.start world).Throughout service (System.PresentsKnown earlier)
      (before ++ revocation :: after))
    (readable : (System.start world).Throughout service (System.ReadsIssuable service)
      (before ++ revocation :: after))
    (asked : ((System.start world).run service before).request? revocation = some (.tokens request))
    (stored : ((System.start world).run service before).world.record? digest = some record)
    (revokes : request.revokes record = true) :
    (forall token answer, ⟨.refresh token, .done answer⟩ ∈ final.processes ->
      service.tokenDigest token = digest -> answer = .error .invalidCredentials) ∧
    (final.RefreshesAnswered ((System.start world).run service before).processes.length ->
      forall heir, Descends service
        ((System.start world).creations service (before ++ revocation :: after)) digest heir ->
      final.world.record? heir = none) := by
  have conditions := (System.throughout_of_forall_mem smooth).and (presented.and readable)
  have every : (System.start world).Throughout service (System.Admits service earlier)
      (before ++ revocation :: after) :=
    conditions.mono fun _ _ all => ⟨all.1, all.2.1, all.2.2⟩
  rcases System.throughout_append.mp every with ⟨always, admits, rest⟩
  rw [System.generated, System.draws_append, System.draws, ← List.append_assoc] at unused
  rw [System.run_append] at ran
  -- Up to the revocation the accounts are kept.
  have nobody : service.stages.Tracks (System.start world).processes [] := Tracking.tracks_nil
  rcases Accounted.run (fun _ _ _ => True) (fun _ _ _ _ _ _ _ _ _ _ _ => trivial) always unused.of_draws.of_draws
    nobody (Accounted.start service world earlier) trivial with ⟨standings, tracks, accounted, _⟩
  rcases Tracking.tracks_step tracks revocation with ⟨later, move, tracked⟩
  have begun := Aftermath.begin accounted.lineage admits.smooth move asked stored revokes
  have reached := Accounted.kept admits tracks move unused.of_draws.of_draws accounted
  -- From there on its aftermath lasts.
  rcases reached.run (fun made world standings => Aftermath service _ made digest _ world standings)
    (fun _ _ _ _ _ _ meets fresh lineage moves holds => holds.kept lineage fresh meets.smooth moves)
    rest unused tracked begun with ⟨last, ends, settled, aftermath⟩
  have whole : (((System.start world).run service before).step service revocation).run service after = final :=
    ran
  rw [whole] at ends settled aftermath
  rw [System.creations_append, System.creations, ← List.append_assoc, ← tracks.length_eq]
  refine ⟨fun token answer member same => ?_, fun answered heir descends => ?_⟩
  · exact aftermath.refuses ends settled.polite member same
  · exact aftermath.record?_of_descends settled.lineage ends unused answered descends

namespace Sample

/-- The user logs in.  A refresh stores a new token, and then the user is to be deleted. -/
def untilDeletion : List Event :=
  .begin (.login email password 1) :: List.replicate 9 (.proceed 0 .carriedOut) ++
    .begin (.refresh token) :: List.replicate 8 (.proceed 1 .carriedOut) ++ [.begin (.deleteUser 1)]

/-- The tokens of the user are deleted. -/
def deletion : Event := .proceed 2 .carriedOut

/-- The refresh goes on to its end, and another one comes too late. -/
def afterDeletion : List Event :=
  List.replicate 2 (.proceed 1 .carriedOut) ++ .begin (.refresh token) :: [.proceed 3 .carriedOut]

/-- The digest of the token that the refresh has stored. -/
def heir : String := service.tokenDigest (Service.textOf (List.replicate Service.randomTextLength 1))

/-- The end of all this. -/
def bereft : System := (System.start world).run service (untilDeletion ++ deletion :: afterDeletion)

end Sample

/-- The new token of a refresh that is overtaken by the deletion of its user is not stored. -/
theorem revocation_outlasts_rotation_of_deletion :
    (∀ event ∈ Sample.untilDeletion ++ Sample.deletion :: Sample.afterDeletion, event.IsSmooth) ∧
      Sample.service.Unused Sample.world [] ((System.start Sample.world).generated Sample.service
        (Sample.untilDeletion ++ Sample.deletion :: Sample.afterDeletion)) ∧
      (System.start Sample.world).Throughout Sample.service (System.PresentsKnown [])
        (Sample.untilDeletion ++ Sample.deletion :: Sample.afterDeletion) ∧
      (System.start Sample.world).Throughout Sample.service (System.ReadsIssuable Sample.service)
        (Sample.untilDeletion ++ Sample.deletion :: Sample.afterDeletion) ∧
      ((System.start Sample.world).run Sample.service Sample.untilDeletion).request? Sample.deletion =
        some (.tokens (.deleteByUser 1)) ∧
      (∃ record, ((System.start Sample.world).run Sample.service Sample.untilDeletion).world.record?
          (Sample.service.tokenDigest Sample.token) = some record ∧
        (TokenCall.deleteByUser 1).revokes record = true) ∧
      (forall answer, ⟨.refresh Sample.token, .done answer⟩ ∈ Sample.bereft.processes ->
        answer = .error .invalidCredentials) ∧
      Sample.bereft.world.record? Sample.heir = none := by
  have smooth : ∀ event ∈ Sample.untilDeletion ++ Sample.deletion :: Sample.afterDeletion,
      event.IsSmooth := by decide +kernel
  have distinct : (((System.start Sample.world).generated Sample.service
      (Sample.untilDeletion ++ Sample.deletion :: Sample.afterDeletion)).map
        Sample.service.tokenDigest).Nodup := by decide +kernel
  have unstored : ∀ token ∈ (System.start Sample.world).generated Sample.service
      (Sample.untilDeletion ++ Sample.deletion :: Sample.afterDeletion),
      Sample.world.record? (Sample.service.tokenDigest token) = none := by decide +kernel
  have unused : Sample.service.Unused Sample.world [] ((System.start Sample.world).generated
      Sample.service (Sample.untilDeletion ++ Sample.deletion :: Sample.afterDeletion)) :=
    ⟨distinct, unstored, fun _ _ _ none => absurd none List.not_mem_nil⟩
  have presented : (System.start Sample.world).Throughout Sample.service (System.PresentsKnown [])
      (Sample.untilDeletion ++ Sample.deletion :: Sample.afterDeletion) := by decide +kernel
  have readable : (System.start Sample.world).Throughout Sample.service
      (System.ReadsIssuable Sample.service)
      (Sample.untilDeletion ++ Sample.deletion :: Sample.afterDeletion) := by decide +kernel
  have asked : ((System.start Sample.world).run Sample.service Sample.untilDeletion).request?
      Sample.deletion = some (.tokens (.deleteByUser 1)) := by decide +kernel
  have covered : (((System.start Sample.world).run Sample.service Sample.untilDeletion).world.record?
      (Sample.service.tokenDigest Sample.token)).any (TokenCall.deleteByUser 1).revokes = true := by
    decide +kernel
  have answered : Sample.bereft.RefreshesAnswered
      ((System.start Sample.world).run Sample.service Sample.untilDeletion).processes.length := by
    decide +kernel
  have made : ∃ entry ∈ (System.start Sample.world).creations Sample.service
      (Sample.untilDeletion ++ Sample.deletion :: Sample.afterDeletion),
      entry.1 = .refresh Sample.token ∧ entry.2.digest = Sample.heir := by decide +kernel
  rcases (Option.any_eq_true _ _).mp covered with ⟨record, stored, revokes⟩
  have outlasts := revocation_outlasts_rotation Sample.service Sample.world [] Sample.untilDeletion
    Sample.afterDeletion Sample.deletion (.deleteByUser 1) (Sample.service.tokenDigest Sample.token)
    record Sample.bereft rfl smooth unused presented readable asked stored revokes
  have gone : Sample.bereft.world.record? Sample.heir = none := by
    rcases made with ⟨⟨call, record⟩, created, called, digest⟩
    dsimp only at called digest
    subst called
    rw [← digest]
    exact outlasts.2 answered _ (Descends.rotated .itself created)
  exact ⟨smooth, unused, presented, readable, asked, ⟨record, stored, revokes⟩,
    fun answer member => outlasts.1 Sample.token answer member rfl, gone⟩

end SingleSignOn

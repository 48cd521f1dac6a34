import Mathlib.Data.List.Nodup
import SingleSignOn.Proofs.RefreshToken.AtRest

namespace SingleSignOn

/-!
# One refresh token for a user and an app

Tokens at rest stay in order as long as no store call fails, refreshes
present tokens that were handed out, no two logins for one user and app
stand before storing their tokens, and no token is drawn twice.  When no
call is in progress, every stored token is at rest, and so a user has at
most one for an app.
-/

/-- How many stored tokens a user has for an app. -/
def TokenStore.countOwned (store : TokenStore) (userId : UserId) (appId : AppId) : Nat :=
  store.tokens.toList.countP fun (_, token) => token.owner = (userId, appId)

/-! ## What is asked of a run -/

/-- The token that a refresh begins with. -/
def Event.presented? : Event -> Option String
  | .begin (.refresh token) => some token
  | _ => none

/-- A refresh begins with a token that an answered call handed out. -/
def System.PresentsHandedOut (system : System) (event : Event) : Prop :=
  ∀ token ∈ event.presented?, system.HandedOut token

instance (system : System) (token : String) : Decidable (system.HandedOut token) :=
  decidable_of_iff (system.processes.any fun process =>
      process.session?.any fun session => session.refreshToken == token) <| by
    simp only [System.HandedOut, List.any_eq_true, Option.any_eq_true, beq_iff_eq]

instance (system : System) (event : Event) : Decidable (system.PresentsHandedOut event) :=
  inferInstanceAs (Decidable (∀ token ∈ event.presented?, system.HandedOut token))

/-- The user and the app of a login that has revoked the earlier tokens and
stands before storing its own. -/
def Process.opening? (process : Process) : Option (UserId × AppId) :=
  match process.call, process.rest.request? with
  | .login _ _ _, some (.tokens (.create token)) => some token.owner
  | _, _ => none

/-- No two logins for one user and app stand before storing their tokens. -/
def System.OpensApart (system : System) : Prop :=
  (system.processes.filterMap Process.opening?).Nodup

instance (system : System) : Decidable system.OpensApart :=
  inferInstanceAs (Decidable (List.Nodup _))

theorem System.OpensApart.eq {system : System} (apart : system.OpensApart) {first second : Nat}
    {one other : Process} {owner : UserId × AppId} (found : system.processes[first]? = some one)
    (another : system.processes[second]? = some other) (opens : one.opening? = some owner)
    (too : other.opening? = some owner) : first = second := by
  rcases List.getElem?_eq_some_iff.mp found with ⟨insideFirst, rfl⟩
  rcases List.getElem?_eq_some_iff.mp another with ⟨insideSecond, rfl⟩
  have pairs := List.pairwise_iff_getElem.mp (List.pairwise_filterMap.mp apart)
  rcases Nat.lt_trichotomy first second with less | same | more
  · exact absurd rfl (pairs first second insideFirst insideSecond less owner opens owner too)
  · exact same
  · exact absurd rfl (pairs second first insideSecond insideFirst more owner too owner opens)

/-! ## Every step keeps order -/

/-- A call that stands before storing its token as a login is one, and shows the owner. -/
theorem opening?_of_follows {service : Service} {call : ServiceCall}
    {rest : Program (Except Error call.Reply)} {record : NewRefreshToken}
    (follows : rest.Follows (service.stages.discipline call) (service.stages.fits call) (.opening record)) :
    Process.opening? ⟨call, rest⟩ = some record.owner := by
  cases rest with
  | done result =>
    rcases ServiceCall.fits_cases follows with idle | ⟨_, impossible⟩ | ⟨_, _, impossible⟩
    · exact False.elim idle
    · cases impossible
    · cases impossible
  | call patience request next =>
    cases follows.1
    rfl
  | clock next =>
    rcases follows.1 with ⟨findings, impossible⟩
    cases impossible
  | draw count next =>
    rcases follows [] with ⟨after, impossible, _⟩
    cases impossible

/-- A call that is answered has no token that it may take back. -/
theorem pending?_of_isFinished {service : Service} {process : Process} {stage : Stage}
    (follows : process.rest.Follows (service.stages.discipline process.call)
      (service.stages.fits process.call) stage)
    (finished : process.isFinished = true) : stage.pending? = none := by
  rcases Option.isSome_iff_exists.mp finished with ⟨answer, answered⟩
  rw [process.rest.eq_done_of_result? answer answered] at follows
  rcases ServiceCall.fits_cases follows with idle | ⟨other, rfl⟩ | ⟨other, removed, rfl⟩
  · cases stage <;> first | rfl | exact False.elim idle
  · rfl
  · rfl

/-- Once all calls are answered, nothing is taken back. -/
theorem not_pending_of_isFinished {service : Service} {processes : List Process}
    {standings : List (ServiceCall × Stage)} (tracks : service.stages.Tracks processes standings)
    (finished : processes.all Process.isFinished = true) (digest : String) :
    ¬Pending standings digest := by
  rintro ⟨⟨call, stage⟩, member, record, pending, _⟩
  rcases tracks.of_standing member with ⟨rest, listed, follows⟩
  cases (pending?_of_isFinished follows (List.all_eq_true.mp finished _ listed)).symm.trans pending

/-- The token of a digest that was handed out was given out by a call. -/
theorem given_of_handedOut {service : Service} {system : System}
    {standings : List (ServiceCall × Stage)}
    (tracks : service.stages.Tracks system.processes standings) {token : String}
    (handed : system.HandedOut token) :
    ∃ giver ∈ standings, ∃ record, giver.2.given? = some record ∧
      record.digest = service.tokenDigest token := by
  rcases handed with ⟨process, member, session, opened, rfl⟩
  rcases tracks.of_process member with ⟨stage, listed, follows⟩
  unfold Process.session? at opened
  split at opened
  · cases opened
    rcases follows with ⟨record, rfl, same⟩
    exact ⟨_, listed, record, rfl, same⟩
  · cases opened
    rcases follows with ⟨record, removed, rfl, same⟩
    exact ⟨_, listed, record, rfl, same⟩
  · cases opened

/-- Whoever is not the one at a number has another number. -/
theorem exists_number_ne {α : Type} {before after : List α} {value other : α}
    (member : other ∈ before ++ after) :
    ∃ number, (before ++ value :: after)[number]? = some other ∧ number ≠ before.length := by
  rcases List.mem_append.mp member with early | late
  · rcases List.getElem?_of_mem early with ⟨number, found⟩
    have inside : number < before.length := (List.getElem?_eq_some_iff.mp found).1
    exact ⟨number, (List.getElem?_append_left inside).trans found, Nat.ne_of_lt inside⟩
  · rcases List.getElem?_of_mem late with ⟨number, found⟩
    refine ⟨before.length + (number + 1), ?_, by omega⟩
    rw [List.getElem?_append_right (Nat.le_add_right _ _), Nat.add_sub_cancel_left]
    exact found

/-- An event that meets the conditions keeps order. -/
theorem Orderly.kept {service : Service} {system : System} {event : Event}
    {standings later : List (ServiceCall × Stage)} {world : World}
    (distinct : (ownDigests standings).Nodup) (smooth : event.IsSmooth)
    (presents : system.PresentsHandedOut event) (apart : system.OpensApart)
    (tracks : service.stages.Tracks system.processes standings)
    (move : service.stages.Move system event standings world later)
    (orderly : Orderly service system.world standings) : Orderly service world later := by
  cases move with
  | began call told =>
    have joined :=
      orderly.join call fun token same => given_of_handedOut tracks (presents token (by rw [told, same]; rfl))
    refine joined.congr fun standing => ?_
    rw [List.mem_append, List.mem_singleton, List.mem_cons, or_comm]
    rfl
  | clockSet now told =>
    exact ⟨orderly.filed, orderly.pending, orderly.alone, orderly.opening, orderly.presented,
      orderly.concerned⟩
  | stayed => exact orderly
  | drew before call stage next after bytes drawn moved =>
    have first := orderly.congr fun standing => (List.perm_middle.mem_iff (a := standing)).symm
    refine Orderly.congr ?_ fun standing => List.perm_middle.mem_iff
    cases moved with
    | unrelated other =>
      exact ⟨first.filed, first.pending, first.alone, first.opening, first.presented,
        first.concerned⟩
    | minted opens foundUser foundApp =>
      refine first.recede first.filed (fun _ _ => id) nofun nofun nofun nofun
        fun token owner _ concerned _ => ?_
      exact Prod.ext (concerned.2.1 _ foundUser) (concerned.2.2 _ foundApp)
  | called before call stage after request ending told requested allowed =>
    subst told
    cases smooth
    have first := orderly.congr fun standing => (List.perm_middle.mem_iff (a := standing)).symm
    refine Orderly.congr ?_ fun standing => List.perm_middle.mem_iff
    refine first.called ((List.perm_middle.filterMap _).nodup_iff.mp distinct) allowed ?_
    rintro record rfl ⟨another, _⟩ member other rfl same
    rcases exists_number_ne member with ⟨number, found, different⟩
    rcases tracks.getElem? found with ⟨rest, stands, follows⟩
    rcases tracks.getElem? (getElem?_append_cons_length before _ after) with ⟨own, mine, goesOn⟩
    exact different (apart.eq stands mine (same ▸ opening?_of_follows follows) (opening?_of_follows goesOn))

/-! ## Tokens are drawn once -/

/-- Of the tokens that calls hold, whatever kind they are, those of the first call count by themselves. -/
theorem count_digests_cons (held : Stage -> Option NewRefreshToken) (call : ServiceCall) (stage : Stage)
    (others : List (ServiceCall × Stage)) (digest : String) :
    let digests (standings : List (ServiceCall × Stage)) :=
      standings.filterMap fun standing => (held standing.2).map NewRefreshToken.digest
    (digests ((call, stage) :: others)).count digest =
      ((held stage).toList.map NewRefreshToken.digest).count digest + (digests others).count digest := by
  intro digests
  cases holds : held stage with
  | none => simp [digests, holds]
  | some record => simp [digests, holds, List.count_cons, Nat.add_comm]

/-- Of all calls, one counts by itself. -/
theorem count_ownDigests (before after : List (ServiceCall × Stage)) (call : ServiceCall)
    (stage : Stage) (digest : String) :
    (ownDigests (before ++ (call, stage) :: after)).count digest =
      (stage.own?.toList.map NewRefreshToken.digest).count digest +
        (ownDigests (before ++ after)).count digest := by
  have moved : (ownDigests (before ++ (call, stage) :: after)).Perm
      (ownDigests ((call, stage) :: (before ++ after))) :=
    List.perm_middle.filterMap _
  rw [moved.count_eq]
  exact count_digests_cons Stage.own? call stage (before ++ after) digest

/-- The tokens that calls have drawn for themselves are covered by the draws of the run. -/
def Fresh (service : Service) (past : List (ServiceCall × Bytes))
    (standings : List (ServiceCall × Stage)) : Prop :=
  forall digest, (ownDigests standings).count digest ≤ ServiceCall.drawn service digest past

namespace Fresh

variable {service : Service} {past : List (ServiceCall × Bytes)} {standings : List (ServiceCall × Stage)}

theorem extend (fresh : Fresh service past standings) (draws : List (ServiceCall × Bytes)) :
    Fresh service (past ++ draws) standings := by
  intro digest
  rw [ServiceCall.drawn_append]
  exact Nat.le_trans (fresh digest) (Nat.le_add_right _ _)

theorem kept {system : System} {event : Event} {world : World} {later : List (ServiceCall × Stage)}
    (move : service.stages.Move system event standings world later)
    (fresh : Fresh service past standings) :
    Fresh service (past ++ (system.drawn? event).toList) later := by
  cases move with
  | began call told =>
    refine extend (fun digest => ?_) _
    rw [count_ownDigests standings [] call _ digest, List.append_nil]
    exact Nat.le_trans (Nat.le_of_eq (Nat.zero_add _)) (fresh digest)
  | clockSet now told => exact fresh.extend _
  | stayed => exact fresh.extend _
  | drew before call stage next after bytes drawn moved =>
    intro digest
    have covered := fresh digest
    rw [drawn, Option.toList_some, ServiceCall.drawn_append]
    rw [count_ownDigests] at covered ⊢
    cases moved with
    | unrelated other => omega
    | minted opens foundUser foundApp =>
      rw [ServiceCall.drawn_of_opensSession service digest opens]
      simp only [Stage.own?, Option.toList_none, Option.toList_some, List.map_nil, List.map_cons,
        List.count_nil, List.count_singleton, beq_iff_eq] at covered ⊢
      omega
  | called before call stage after request ending told requested allowed =>
    refine extend (fun digest => ?_) _
    have covered := fresh digest
    rw [count_ownDigests] at covered ⊢
    rcases Stage.own?_replied stage request (system.world.endCall request ending).1 with none | same
    · show ((stage.replied request _).own?.toList.map _).count digest + _ ≤ _
      rw [none]
      exact Nat.le_trans (Nat.add_le_add_right (Nat.zero_le _) _) covered
    · show ((stage.replied request _).own?.toList.map _).count digest + _ ≤ _
      rw [same]
      exact covered

end Fresh

/-- Tokens are fresh, and if the draws never repeat a digest, everything is in order. -/
structure InOrder (service : Service) (past : List (ServiceCall × Bytes)) (world : World)
    (standings : List (ServiceCall × Stage)) : Prop where
  fresh : Fresh service past standings
  orderly : ((ServiceCall.tokensOf past).map service.tokenDigest).Nodup ->
    Orderly service world standings

namespace InOrder

variable {service : Service} {past : List (ServiceCall × Bytes)} {world : World}

theorem start (filed : world.stores.credentials.IsFiled) (empty : world.stores.tokens = .empty) :
    InOrder service [] world [] := by
  have bare (digest : String) : world.record? digest = none := by
    rw [World.record?, empty]
    rfl
  refine ⟨fun _ => Nat.zero_le _, fun _ => ⟨filed, ?_, ?_, ?_, ?_, ?_⟩⟩
  · exact fun _ impossible => absurd impossible List.not_mem_nil
  · intro first one second other rests
    cases (bare first).symm.trans rests.1
  · exact fun _ impossible => absurd impossible List.not_mem_nil
  · exact fun _ impossible => absurd impossible List.not_mem_nil
  · exact fun _ impossible => absurd impossible List.not_mem_nil

theorem kept {system : System} {event : Event} {standings later : List (ServiceCall × Stage)}
    (conditions : event.IsSmooth ∧ system.PresentsHandedOut event ∧ system.OpensApart)
    (tracks : service.stages.Tracks system.processes standings)
    (move : service.stages.Move system event standings world later)
    (before : InOrder service past system.world standings) :
    InOrder service (past ++ (system.drawn? event).toList) world later := by
  refine ⟨before.fresh.kept move, fun distinct => ?_⟩
  have earlier : ((ServiceCall.tokensOf past).map service.tokenDigest).Nodup := by
    rw [ServiceCall.tokensOf_append, List.map_append] at distinct
    exact (List.nodup_append.mp distinct).1
  refine (before.orderly earlier).kept ?_ conditions.1 conditions.2.1 conditions.2.2 tracks move
  exact List.nodup_iff_count_le_one.mpr fun digest =>
    Nat.le_trans (before.fresh digest) (List.nodup_iff_count_le_one.mp earlier digest)

end InOrder

/-- A user has at most one token for an app if any two of them have the same digest. -/
theorem TokenStore.countOwned_le_one (store : TokenStore) (userId : UserId) (appId : AppId)
    (alone : forall (first : String) (one : RefreshToken) (second : String) (other : RefreshToken),
      store.tokens[first]? = some one -> store.tokens[second]? = some other ->
      one.owner = (userId, appId) -> other.owner = (userId, appId) -> first = second) :
    store.countOwned userId appId ≤ 1 := by
  have keys :=
    store.tokens.distinct_keys_toList.filter fun (_, token) => token.owner = (userId, appId)
  rw [countOwned, List.countP_eq_length_filter]
  cases owned : store.tokens.toList.filter fun (_, token) => token.owner = (userId, appId) with
  | nil => exact Nat.zero_le 1
  | cons first others =>
    cases others with
    | nil => exact Nat.le_refl 1
    | cons second others =>
      have stored (entry : String × RefreshToken) (member : entry ∈ first :: second :: others) :
          store.tokens[entry.1]? = some entry.2 ∧ entry.2.owner = (userId, appId) := by
        rw [← owned] at member
        rcases List.mem_filter.mp member with ⟨listed, mine⟩
        exact ⟨Std.ExtTreeMap.mem_toList_iff_getElem?_eq_some.mp listed, of_decide_eq_true mine⟩
      have one := stored first List.mem_cons_self
      have other := stored second (List.mem_cons_of_mem _ List.mem_cons_self)
      rw [owned] at keys
      refine absurd ?_ ((List.pairwise_cons.mp keys).1 second List.mem_cons_self)
      exact Std.LawfulEqCmp.compare_eq_iff_eq.mpr (alone _ _ _ _ one.1 other.1 one.2 other.2)

/-- When no call is in progress, a user has at most one refresh token for an
app.  Calls of any kind and number may have come between each other at any
store call, as long as no store call failed, refreshes presented tokens that
had been handed out, and no two logins of one user for one app were about to
store their tokens at the same time; logins that do not overlap never are. -/
theorem one_per_pair (service : Service) (world : World) (events : List Event) (userId : UserId)
    (appId : AppId) (filed : world.stores.credentials.IsFiled)
    (empty : world.stores.tokens = .empty) (smooth : ∀ event ∈ events, event.IsSmooth)
    (distinct : (((System.start world).generated service events).map service.tokenDigest).Nodup)
    (presented : (System.start world).Throughout service System.PresentsHandedOut events)
    (apart : (System.start world).Throughout service (fun system _ => system.OpensApart) events)
    (settled : ((System.start world).run service events).isSettled = true) :
    ((System.start world).run service events).world.stores.tokens.countOwned userId appId ≤ 1 := by
  have conditions := (System.throughout_of_forall_mem smooth).and (presented.and apart)
  rcases service.stages.tracks_run (fun _ _ _ _ _ _ => InOrder.kept) conditions Tracking.tracks_nil
    (InOrder.start filed empty) with ⟨final, tracks, ordered⟩
  have orderly := ordered.orderly distinct
  refine TokenStore.countOwned_le_one _ _ _ fun first one second other found another mine too => ?_
  refine orderly.alone first one second other ⟨found, ?_⟩ ⟨another, ?_⟩ (mine.trans too.symm)
  · exact not_pending_of_isFinished tracks settled first
  · exact not_pending_of_isFinished tracks settled second

/-- After a login and two refreshes that race for its token, one token is left. -/
theorem one_per_pair_of_race :
    Sample.world.stores.credentials.IsFiled ∧ Sample.world.stores.tokens = .empty ∧
      (∀ event ∈ Sample.race, event.IsSmooth) ∧
      (((System.start Sample.world).generated Sample.service Sample.race).map Sample.service.tokenDigest).Nodup ∧
      (System.start Sample.world).Throughout Sample.service System.PresentsHandedOut Sample.race ∧
      (System.start Sample.world).Throughout Sample.service (fun system _ => system.OpensApart) Sample.race ∧
      ((System.start Sample.world).run Sample.service Sample.race).isSettled = true ∧
      ((System.start Sample.world).run Sample.service Sample.race).world.stores.tokens.countOwned 1 1 ≤ 1 := by
  have smooth : ∀ event ∈ Sample.race, event.IsSmooth := by decide +kernel
  have distinct : (((System.start Sample.world).generated Sample.service Sample.race).map
      Sample.service.tokenDigest).Nodup := by decide +kernel
  have presented : (System.start Sample.world).Throughout Sample.service System.PresentsHandedOut
      Sample.race := by decide +kernel
  have apart : (System.start Sample.world).Throughout Sample.service (fun system _ => system.OpensApart)
      Sample.race := by decide +kernel
  have settled : ((System.start Sample.world).run Sample.service Sample.race).isSettled = true :=
    by decide +kernel
  exact ⟨Sample.isFiled, rfl, smooth, distinct, presented, apart, settled,
    one_per_pair Sample.service Sample.world Sample.race 1 1 Sample.isFiled rfl smooth distinct
      presented apart settled⟩

end SingleSignOn

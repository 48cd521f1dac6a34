import SingleSignOn.Proofs.RefreshToken.OnePerPair

namespace SingleSignOn

/-!
# Logins that overlap

A login removes the earlier tokens of its user for its app, and stores its
own token by a second store call.  A token that is not stored yet is not
removed.  So logins that stand between their two calls at the same time all
leave a token behind: as many are stored in the end as there were such logins
when the last of them had removed the earlier tokens.  One token is left
exactly if that login stood there alone.
-/

/-! ## How many tokens an owner has -/

/-- A condition on the values of a table looks at a new entry by itself. -/
theorem Table.filter_insert {Key Value : Type} [Ord Key] [Std.TransOrd Key] [Std.LawfulEqOrd Key]
    (table : Table Key Value) (keep : Value -> Bool) {key : Key} (value : Value)
    (absent : table[key]? = none) :
    (table.insert key value).filter (fun _ => keep) =
      if keep value then (table.filter fun _ => keep).insert key value
      else table.filter fun _ => keep := by
  refine Std.ExtTreeMap.ext_getElem? fun {other} => ?_
  by_cases kept : keep value = true
  · rw [if_pos kept]
    simp only [Std.ExtTreeMap.getElem?_filter', Std.ExtTreeMap.getElem?_insert]
    split
    · exact Option.filter_some_pos kept
    · rfl
  · rw [if_neg kept]
    simp only [Std.ExtTreeMap.getElem?_filter', Std.ExtTreeMap.getElem?_insert]
    split
    · next same =>
      rw [← Std.LawfulEqCmp.eq_of_compare same, absent]
      exact Option.filter_some_neg (Bool.eq_false_iff.mpr kept)
    · rfl

namespace TokenStore

variable (store : TokenStore) (userId : UserId) (appId : AppId)

theorem countOwned_eq_size :
    store.countOwned userId appId =
      (store.tokens.filter fun _ token => token.owner = (userId, appId)).size := by
  rw [countOwned, List.countP_eq_length_filter, ← Std.ExtTreeMap.length_toList,
    Std.ExtTreeMap.toList_filter]

/-- A token that is stored anew is one more for its owner. -/
theorem countOwned_create (now : Instant) (token : NewRefreshToken)
    (free : store.tokens[token.digest]? = none) :
    (store.create now token).2.countOwned userId appId =
      store.countOwned userId appId + if token.owner = (userId, appId) then 1 else 0 := by
  let record : RefreshToken := ⟨token.digest, token.userId, token.appId, token.expiresAt, now⟩
  have shown : record.owner = token.owner := rfl
  rw [create_of_none store now token free, countOwned_eq_size, countOwned_eq_size]
  show ((store.tokens.insert token.digest record).filter _).size = _
  rw [Table.filter_insert store.tokens (fun token => token.owner = (userId, appId)) record free, shown]
  by_cases owned : token.owner = (userId, appId)
  · rw [if_pos owned, if_pos (decide_eq_true owned), Std.ExtTreeMap.size_insert, if_neg]
    simp [Std.ExtTreeMap.contains_eq_isSome_getElem?, free]
  · rw [if_neg owned, if_neg fun same => owned (of_decide_eq_true same)]
    rfl

/-- A removal of the tokens of an owner leaves none of them, and all those of others. -/
theorem countOwned_deleteByOwner (now : Instant) (other : UserId) (another : AppId) :
    (store.answer now (.deleteByOwner other another)).2.countOwned userId appId =
      if (other, another) = (userId, appId) then 0 else store.countOwned userId appId := by
  show (store.deleteWhere _).2.countOwned userId appId = _
  simp only [countOwned, deleteWhere, Std.ExtTreeMap.toList_filter, List.countP_filter]
  split
  · next same =>
    cases same
    refine List.countP_eq_zero.mpr fun entry _ => ?_
    simp [RefreshToken.owner]
  · next different =>
    refine List.countP_congr fun entry _ => ?_
    rw [Bool.and_eq_true]
    refine and_iff_left_of_imp fun owned => ?_
    rw [Bool.not_eq_true', Bool.and_eq_false_iff, beq_eq_false_iff_ne, beq_eq_false_iff_ne]
    have mine : entry.2.owner = (userId, appId) := of_decide_eq_true owned
    by_contra! both
    exact different ((Prod.ext both.1.symm both.2.symm).trans mine)

end TokenStore

/-! ## Between the two store calls of a login -/

/-- The owner for whom a login at this stage stores a token next. -/
def Stage.opening? : Stage -> Option (UserId × AppId)
  | .opening record => some record.owner
  | _ => none

/-- A process shows the owner of the token that it stores next as a login. -/
theorem Process.opening?_eq_of_follows {service : Service} {process : Process} {stage : Stage}
    (follows : process.rest.Follows (service.stages.discipline process.call)
      (service.stages.fits process.call) stage) :
    process.opening? = stage.opening? := by
  rcases process with ⟨call, rest⟩
  cases opened : stage.opening? with
  | some owner =>
    cases stage <;> cases opened
    exact SingleSignOn.opening?_of_follows follows
  | none =>
    by_contra! some
    unfold Process.opening? at some
    split at some
    · next email password appId token called asked =>
      dsimp only at called asked
      subst called
      cases rest <;> cases asked
      cases follows.1 with
      | asked asks => exact asks
      | opened => cases opened
    · exact some rfl

/-- The logins that store a token of an owner next. -/
def countOpening (owner : UserId × AppId) (standings : List (ServiceCall × Stage)) : Nat :=
  standings.countP fun standing => standing.2.opening? = some owner

theorem countOpening_middle (owner : UserId × AppId) (before after : List (ServiceCall × Stage))
    (call : ServiceCall) (stage : Stage) :
    countOpening owner (before ++ (call, stage) :: after) =
      countOpening owner (before ++ after) + if stage.opening? = some owner then 1 else 0 := by
  simp only [countOpening, List.countP_append, List.countP_cons, decide_eq_true_eq]
  omega

/-- All calls are logins.  Unless one of them has failed after it removed the
earlier tokens, the tokens of an owner that are stored or about to be stored
are as many as told. -/
structure Balanced (owner : UserId × AppId) (total : Nat) (world : World)
    (standings : List (ServiceCall × Stage)) : Prop where
  logins : ∀ standing ∈ standings, standing.1.isLogin = true
  balance : (∀ standing ∈ standings, standing.2 ≠ .ending) ->
    world.stores.tokens.countOwned owner.1 owner.2 + countOpening owner standings = total

namespace Balanced

variable {service : Service} {owner : UserId × AppId} {total : Nat} {world : World}
  {before after : List (ServiceCall × Stage)} {call : ServiceCall} {stage later : Stage}

/-- One login goes on.  What its step adds to one side it takes from the other. -/
theorem step (balanced : Balanced owner total world (before ++ (call, stage) :: after)) {next : World}
    (going : stage ≠ .ending)
    (even : later ≠ .ending ->
      next.stores.tokens.countOwned owner.1 owner.2 + (if later.opening? = some owner then 1 else 0) =
        world.stores.tokens.countOwned owner.1 owner.2 + if stage.opening? = some owner then 1 else 0) :
    Balanced owner total next (before ++ (call, later) :: after) := by
  refine ⟨fun standing member => ?_, fun unbroken => ?_⟩
  · rcases eq_or_mem_of_middle before after (call, stage) (call, later) member with rfl | old
    · exact balanced.logins (call, stage) List.mem_append_cons_self
    · exact balanced.logins standing old
  · have balance := balanced.balance fun standing member => ?_
    · rw [countOpening_middle] at balance ⊢
      have even := even (unbroken (call, later) List.mem_append_cons_self)
      omega
    · rcases eq_or_mem_of_middle before after (call, later) (call, stage) member with rfl | old
      · exact going
      · exact unbroken standing old

/-- A store call of a login keeps the balance if it removes no token of the owner. -/
theorem called {request : StoreCall} (spares : request ≠ .tokens (.deleteByOwner owner.1 owner.2))
    (balanced : Balanced owner total world (before ++ (call, stage) :: after))
    (allowed : call.Allows service stage request) :
    Balanced owner total (world.endCall request .carriedOut).2
      (before ++ (call, stage.replied request (world.endCall request .carriedOut).1) :: after) := by
  have login := balanced.logins (call, stage) List.mem_append_cons_self
  cases allowed with
  | @asked _ findings _ asks =>
    have plain : ∃ look, request = .credentials look := by
      cases call <;> cases login
      cases request with
      | credentials look => exact ⟨look, rfl⟩
      | tokens other => exact False.elim asks
    rcases plain with ⟨look, rfl⟩
    have keeps : forall gone, StoreCall.credentials look ≠ .tokens (.deleteByToken gone) := nofun
    rcases Stage.replied_asking findings keeps (world.endCall (.credentials look) .carriedOut).1 with
      ⟨learned, same⟩
    exact balanced.step nofun fun _ => by rw [same]; rfl
  | @revoked _ _ _ findings record =>
    refine balanced.step nofun fun _ => ?_
    have others : (record.userId, record.appId) ≠ owner := by
      rintro rfl
      exact spares rfl
    have kept := (world.stores.tokens.countOwned_deleteByOwner owner.1 owner.2 world.now record.userId
      record.appId).trans (if_neg others)
    have foreign : some record.owner ≠ some owner := fun same => others (Option.some.inj same)
    exact congrArg₂ (· + ·) kept (if_neg foreign)
  | @opened _ _ _ record =>
    refine balanced.step nofun fun going => ?_
    cases stored : world.record? record.digest with
    | some other =>
      -- A login that cannot store its token fails, and nothing is claimed any more.
      refine absurd ?_ going
      rw [world.endCall_create_of_some record stored]
      rfl
    | none =>
      have more := world.stores.tokens.countOwned_create owner.1 owner.2 world.now record stored
      rw [world.create_reply record stored]
      refine more.trans ?_
      simp only [Stage.opening?, Option.some.injEq]
  | placed => cases login
  | exchanged => cases login
  | takenBack => cases login

/-- No event breaks the balance unless it removes the tokens of the owner. -/
theorem kept {system : System} {event : Event} {standings next : List (ServiceCall × Stage)}
    (smooth : event.IsSmooth) (begins : ∀ begun ∈ event.begun?, begun.isLogin = true)
    (spares : system.request? event ≠ some (.tokens (.deleteByOwner owner.1 owner.2)))
    (move : service.stages.Move system event standings world next)
    (balanced : Balanced owner total system.world standings) : Balanced owner total world next := by
  cases move with
  | began call told =>
    refine ⟨fun standing member => ?_, fun unbroken => ?_⟩
    · rcases List.mem_append.mp member with old | new
      · exact balanced.logins standing old
      · cases List.mem_singleton.mp new
        exact begins call (by rw [told]; rfl)
    · have balance := balanced.balance fun standing member => unbroken standing (List.mem_append_left _ member)
      rw [countOpening_middle, List.append_nil]
      exact balance
  | clockSet now told => exact ⟨balanced.logins, balanced.balance⟩
  | stayed => exact balanced
  | drew before call stage later after bytes drawn moved =>
    cases moved with
    | minted => exact balanced.step nofun fun _ => rfl
    | unrelated => exact balanced.step nofun fun _ => rfl
  | called before call stage after request ending told requested allowed =>
    subst told
    cases smooth
    exact balanced.called (fun same => spares (requested.trans (congrArg some same))) allowed

end Balanced

/-- Right after a login has removed the earlier tokens, those are stored that
logins are about to store, and there is one at least. -/
theorem Balanced.start {service : Service} {userId : UserId} {appId : AppId} {system : System}
    {event : Event} {standings next : List (ServiceCall × Stage)} {world : World}
    (smooth : event.IsSmooth)
    (revokes : system.request? event = some (.tokens (.deleteByOwner userId appId)))
    (move : service.stages.Move system event standings world next)
    (logins : ∀ standing ∈ standings, standing.1.isLogin = true) :
    Balanced (userId, appId) (countOpening (userId, appId) next) world next ∧
      1 ≤ countOpening (userId, appId) next := by
  rcases move.called_of_request? revokes with
    ⟨before, call, stage, after, ending, rfl, rfl, allowed, rfl, rfl⟩
  cases smooth
  have login := logins (call, stage) List.mem_append_cons_self
  cases allowed with
  | asked asks =>
    cases call <;> cases login
    exact False.elim asks
  | @revoked _ _ _ _ record =>
    refine ⟨⟨fun standing member => ?_, fun _ => ?_⟩, ?_⟩
    · rcases eq_or_mem_of_middle before after _ _ member with rfl | old
      · exact login
      · exact logins standing old
    · have gone := (system.world.stores.tokens.countOwned_deleteByOwner record.userId record.appId
        system.world.now record.userId record.appId).trans (if_pos rfl)
      exact (congrArg (· + _) gone).trans (Nat.zero_add _)
    · rw [countOpening_middle]
      exact Nat.le_trans (Nat.le_of_eq (if_pos rfl).symm) (Nat.le_add_left _ _)

/-! ## Runs of logins -/

/-- A call that stores a token next is not answered. -/
theorem session?_of_opening? {process : Process} {owner : UserId × AppId}
    (opens : process.opening? = some owner) : process.session? = none := by
  rcases process with ⟨call, rest⟩
  cases rest with
  | done answer => cases call <;> cases opens
  | _ => cases call <;> rfl

/-- A call that is answered with a session has not failed. -/
theorem ne_ending_of_session? {service : Service} {process : Process} {stage : Stage}
    (answered : process.session?.isSome = true)
    (follows : process.rest.Follows (service.stages.discipline process.call)
      (service.stages.fits process.call) stage) : stage ≠ .ending := by
  rintro rfl
  unfold Process.session? at answered
  split at answered
  · rcases follows with ⟨record, impossible, _⟩
    cases impossible
  · rcases follows with ⟨record, removed, impossible, _⟩
    cases impossible
  · cases answered

/-- Logins leave as many tokens of an owner as there were logins between their
two store calls when the last of them had removed the earlier tokens, and at
least one.  The calls are logins of any users for any apps and come between
each other at any store call, no store call fails, and all are answered with
a session. -/
theorem overlapping_logins_leave_their_tokens (service : Service) (world : World) (before after : List Event)
    (revocation : Event) (userId : UserId) (appId : AppId) (middle final : System)
    (reached : (System.start world).run service (before ++ [revocation]) = middle)
    (ran : middle.run service after = final)
    (smooth : ∀ event ∈ before ++ revocation :: after, event.IsSmooth)
    (logins : ∀ process ∈ final.processes,
      process.call.isLogin = true ∧ process.session?.isSome = true)
    (revokes : ((System.start world).run service before).request? revocation =
      some (.tokens (.deleteByOwner userId appId)))
    (last : middle.Throughout service
      (fun system event => system.request? event ≠ some (.tokens (.deleteByOwner userId appId))) after) :
    final.world.stores.tokens.countOwned userId appId =
        middle.processes.countP (fun process => process.opening? = some (userId, appId)) ∧
      1 ≤ final.world.stores.tokens.countOwned userId appId := by
  have begun : ∀ event ∈ before ++ revocation :: after, ∀ call ∈ event.begun?, call.isLogin = true := by
    have calls := (System.start world).calls_run service (before ++ revocation :: after)
    rw [List.append_cons, System.run_append, reached, ran] at calls
    intro event member call begins
    have listed : call ∈ final.processes.map Process.call := by
      rw [calls, ← List.append_cons]
      exact List.mem_append_right _ (List.mem_filterMap.mpr ⟨event, member, begins⟩)
    rcases List.mem_map.mp listed with ⟨process, found, rfl⟩
    exact (logins process found).1
  rcases service.stages.tracks_start world before with ⟨standings, tracks⟩
  have earlier : ∀ standing ∈ standings, standing.1.isLogin = true := by
    intro standing member
    have listed : standing.1 ∈ standings.map Prod.fst := List.mem_map.mpr ⟨standing, member, rfl⟩
    rw [tracks.map_fst, System.calls_run] at listed
    rcases List.mem_filterMap.mp listed with ⟨event, past, begins⟩
    exact begun event (List.mem_append_left _ past) _ begins
  rcases Tracking.tracks_step tracks revocation with ⟨next, move, tracked⟩
  rw [show System.step service _ revocation = middle from (System.run_append _ _ _).symm.trans reached]
    at move tracked
  rcases Balanced.start (smooth revocation List.mem_append_cons_self) revokes move earlier with ⟨balanced, one⟩
  have conditions := (System.throughout_of_forall_mem fun event (member : event ∈ after) =>
    And.intro (smooth event (List.mem_append_right _ (List.mem_cons_of_mem _ member)))
      (begun event (List.mem_append_right _ (List.mem_cons_of_mem _ member)))).and last
  rcases tracked.run (fun so standings => Balanced (userId, appId) (countOpening (userId, appId) next)
      (middle.run service so).world standings)
    (fun past event _ later meets _ move holds => by
      rw [System.run_append]
      exact holds.kept meets.1.1 meets.1.2 meets.2 move) conditions balanced
    with ⟨last, ends, settled⟩
  rw [ran] at ends settled
  have owned : final.world.stores.tokens.countOwned userId appId = countOpening (userId, appId) next := by
    have finished : countOpening (userId, appId) last = 0 := by
      refine List.countP_eq_zero.mpr fun ⟨call, stage⟩ member opens => ?_
      rcases ends.of_standing member with ⟨rest, listed, follows⟩
      have shown : Process.opening? ⟨call, rest⟩ = stage.opening? := Process.opening?_eq_of_follows follows
      have opening := shown.trans (of_decide_eq_true opens)
      have answered := (logins _ listed).2
      rw [session?_of_opening? opening] at answered
      cases answered
    have unbroken : ∀ standing ∈ last, standing.2 ≠ .ending := by
      rintro ⟨call, stage⟩ member
      rcases ends.of_standing member with ⟨rest, listed, follows⟩
      exact ne_ending_of_session? (logins _ listed).2 follows
    have balance := settled.balance unbroken
    rwa [finished] at balance
  rw [owned]
  refine ⟨(tracked.countP_eq _ _ fun process stage follows => ?_).symm, one⟩
  rw [Process.opening?_eq_of_follows follows]

namespace Sample

/-- The user logs in twice.  The first login has removed the earlier tokens, and the second is about to. -/
def untilRemoval : List Event :=
  .begin (.login email password 1) :: .begin (.login email password 1) ::
    List.replicate 6 (.proceed 0 .carriedOut) ++ List.replicate 5 (.proceed 1 .carriedOut)

/-- The second login removes the earlier tokens. -/
def removal : Event := .proceed 1 .carriedOut

/-- Both logins store their tokens. -/
def afterRemoval : List Event := [.proceed 0 .carriedOut, .proceed 1 .carriedOut]

/-- Two logins that overlap. -/
def overlap : System := (System.start world).run service (untilRemoval ++ removal :: afterRemoval)

end Sample

/-- Two logins of one user for one app leave both their tokens. -/
theorem overlapping_logins_leave_their_tokens_of_two :
    (∀ event ∈ Sample.untilRemoval ++ Sample.removal :: Sample.afterRemoval, event.IsSmooth) ∧
      (∀ process ∈ Sample.overlap.processes,
        process.call.isLogin = true ∧ process.session?.isSome = true) ∧
      ((System.start Sample.world).run Sample.service Sample.untilRemoval).request? Sample.removal =
        some (.tokens (.deleteByOwner 1 1)) ∧
      ((System.start Sample.world).run Sample.service (Sample.untilRemoval ++ [Sample.removal])).Throughout
        Sample.service (fun system event => system.request? event ≠ some (.tokens (.deleteByOwner 1 1)))
        Sample.afterRemoval ∧
      Sample.overlap.world.stores.tokens.countOwned 1 1 = 2 := by
  have observed : (∀ event ∈ Sample.untilRemoval ++ Sample.removal :: Sample.afterRemoval, event.IsSmooth) ∧
      (∀ process ∈ Sample.overlap.processes,
        process.call.isLogin = true ∧ process.session?.isSome = true) ∧
      ((System.start Sample.world).run Sample.service Sample.untilRemoval).request? Sample.removal =
        some (.tokens (.deleteByOwner 1 1)) ∧
      ((System.start Sample.world).run Sample.service (Sample.untilRemoval ++ [Sample.removal])).Throughout
        Sample.service (fun system event => system.request? event ≠ some (.tokens (.deleteByOwner 1 1)))
        Sample.afterRemoval ∧
      ((System.start Sample.world).run Sample.service
        (Sample.untilRemoval ++ [Sample.removal])).processes.countP
          (fun process => process.opening? = some (1, 1)) = 2 := by
    decide +kernel
  rcases observed with ⟨smooth, logins, revokes, last, two⟩
  have ran : ((System.start Sample.world).run Sample.service (Sample.untilRemoval ++ [Sample.removal])).run
      Sample.service Sample.afterRemoval = Sample.overlap := by
    rw [← System.run_append, ← List.append_cons, Sample.overlap]
  have left := overlapping_logins_leave_their_tokens Sample.service Sample.world Sample.untilRemoval
    Sample.afterRemoval Sample.removal 1 1 _ Sample.overlap rfl ran smooth logins revokes last
  exact ⟨smooth, logins, revokes, last, left.1.trans two⟩

/-- Both logins have succeeded, and both tokens that they returned can still be used. -/
theorem overlapping_logins_leave_two_tokens :
    (∀ event ∈ Sample.untilRemoval ++ Sample.removal :: Sample.afterRemoval, event.IsSmooth) ∧
      Sample.overlap.processes.map Process.call =
        List.replicate 2 (.login Sample.email Sample.password 1) ∧
      (∀ process ∈ Sample.overlap.processes, ∃ session ∈ process.session?, ∃ record ∈
        Sample.overlap.world.record? (Sample.service.tokenDigest session.refreshToken),
        record.owner = (1, 1)) ∧
      ¬Sample.overlap.world.stores.tokens.countOwned 1 1 = 1 := by
  decide +kernel

end SingleSignOn

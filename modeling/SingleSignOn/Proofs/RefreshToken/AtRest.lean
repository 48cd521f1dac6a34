import SingleSignOn.Proofs.RefreshToken.Stage
import SingleSignOn.Proofs.Store.Filing

namespace SingleSignOn

/-!
# Refresh tokens at rest

A refresh stores its new token before it removes the presented one, so while
calls are in progress a user may own many tokens for one app.  But a token
that no refresh in progress can take back is at rest, and of those there is
never more than one for a user and an app.  The step that matters is the
removal of the presented token: it was at rest, so nobody else had one, and
the new token takes its place.  A refresh that comes too late finds nothing
to remove and takes its own token back.

`Orderly` says this of the stages of all calls, and `Orderly.called` that no
store call breaks it when it is carried out.
-/

/-- The user and the app of a token to be stored. -/
def NewRefreshToken.owner (token : NewRefreshToken) : UserId × AppId :=
  (token.userId, token.appId)

/-- The user and the app of a stored token. -/
def RefreshToken.owner (token : RefreshToken) : UserId × AppId :=
  (token.userId, token.appId)

namespace Stage

/-- The token that a call has drawn for itself. -/
def own? : Stage -> Option NewRefreshToken
  | .minted _ record => some record
  | .opening record => some record
  | .opened record => some record
  | .placed _ record => some record
  | .beaten record => some record
  | .rotated record _ => some record
  | _ => none

/-- The token that a call has given out, or will do. -/
def given? : Stage -> Option NewRefreshToken
  | .opened record => some record
  | .rotated record _ => some record
  | _ => none

/-- The token that a call has stored and may take back. -/
def pending? : Stage -> Option NewRefreshToken
  | .placed _ record => some record
  | .beaten record => some record
  | _ => none

/-- Whatever a call has found is about this user and app. -/
def Concerns (owner : UserId × AppId) : Stage -> Prop
  | .asking findings =>
    (forall token, findings.presented = some token -> token.owner = owner) ∧
      (forall user, findings.user = some user -> user.id = owner.1) ∧
      (forall app, findings.app = some app -> app.id = owner.2)
  | .minted _ record => record.owner = owner
  | .placed _ record => record.owner = owner
  | _ => True

theorem own?_of_given? {stage : Stage} {record : NewRefreshToken}
    (given : stage.given? = some record) :
    stage.own? = some record := by
  cases stage <;> first | exact given | cases given

theorem own?_of_pending? {stage : Stage} {record : NewRefreshToken}
    (pending : stage.pending? = some record) :
    stage.own? = some record := by
  cases stage <;> first | exact pending | cases pending

theorem given?_of_pending? {stage : Stage} {record : NewRefreshToken}
    (pending : stage.pending? = some record) :
    stage.given? = none := by
  cases stage <;> first | rfl | cases pending

end Stage

/-- The digests of the tokens that calls have drawn for themselves. -/
def ownDigests (standings : List (ServiceCall × Stage)) : List String :=
  standings.filterMap fun standing => standing.2.own?.map NewRefreshToken.digest

/-- Some call may take the token of a digest back. -/
def Pending (standings : List (ServiceCall × Stage)) (digest : String) : Prop :=
  ∃ standing ∈ standings, ∃ record, standing.2.pending? = some record ∧ record.digest = digest

/-- A token is stored, and no call may take it back. -/
def Rests (world : World) (standings : List (ServiceCall × Stage)) (digest : String)
    (token : RefreshToken) : Prop :=
  world.record? digest = some token ∧ ¬Pending standings digest

/-- At most one token is at rest for a user and an app, and what keeps it so. -/
structure Orderly (service : Service) (world : World) (standings : List (ServiceCall × Stage)) :
    Prop where
  filed : world.stores.credentials.IsFiled
  /-- A token that may be taken back belongs to whom it was drawn for. -/
  pending : ∀ standing ∈ standings, forall record, standing.2.pending? = some record ->
    forall token, world.record? record.digest = some token -> token.owner = record.owner
  alone : forall first one second other, Rests world standings first one ->
    Rests world standings second other ->
    one.owner = other.owner -> first = second
  /-- A login about to store a token finds none at rest. -/
  opening : ∀ standing ∈ standings, forall record, standing.2 = .opening record ->
    forall digest token, Rests world standings digest token -> token.owner ≠ record.owner
  /-- A refresh presents a token that was given out. -/
  presented : ∀ standing ∈ standings, forall token, standing.1 = .refresh token ->
    ∃ giver ∈ standings, ∃ record, giver.2.given? = some record ∧
      record.digest = service.tokenDigest token
  /-- What a refresh has found is about the owner of the presented token. -/
  concerned : ∀ standing ∈ standings, forall token, standing.1 = .refresh token ->
    ∃ owner, standing.2.Concerns owner ∧
      forall stored, world.record? (service.tokenDigest token) = some stored -> stored.owner = owner

section Distinct

variable {standings others : List (ServiceCall × Stage)} {call : ServiceCall} {stage : Stage}

/-- Of different calls, each has a token of its own. -/
theorem ne_of_own {record other : NewRefreshToken}
    (distinct : (ownDigests ((call, stage) :: others)).Nodup) (own : stage.own? = some record)
    {standing : ServiceCall × Stage} (member : standing ∈ others)
    (theirs : standing.2.own? = some other) : other.digest ≠ record.digest := by
  intro same
  have listed : record.digest ∈ ownDigests others := by
    refine List.mem_filterMap.mpr ⟨standing, member, ?_⟩
    rw [theirs, Option.map_some, same]
  rw [ownDigests, List.filterMap_cons_some (b := record.digest) (by rw [own, Option.map_some])] at distinct
  exact (List.nodup_cons.mp distinct).1 listed

/-- A token that was given out is not taken back. -/
theorem not_pending_of_given (distinct : (ownDigests standings).Nodup) {giver : ServiceCall × Stage}
    (member : giver ∈ standings) {record : NewRefreshToken} (given : giver.2.given? = some record) :
    ¬Pending standings record.digest := by
  rintro ⟨pender, listed, other, pending, same⟩
  rcases List.append_of_mem member with ⟨before, after, rfl⟩
  have moved : (before ++ giver :: after).Perm (giver :: (before ++ after)) := List.perm_middle
  have apart : (ownDigests (giver :: (before ++ after))).Nodup :=
    (moved.filterMap _).nodup_iff.mp distinct
  rcases List.mem_cons.mp (moved.mem_iff.mp listed) with rfl | rest
  · rw [Stage.given?_of_pending? pending] at given
    cases given
  · exact ne_of_own apart (Stage.own?_of_given? given) rest (Stage.own?_of_pending? pending) same

end Distinct

namespace Orderly

variable {service : Service} {world later : World} {standings others : List (ServiceCall × Stage)}
  {call : ServiceCall} {stage next : Stage}

/-- The order of the calls does not matter. -/
theorem congr (orderly : Orderly service world standings)
    (same : forall standing, standing ∈ others ↔ standing ∈ standings) :
    Orderly service world others := by
  have rests {digest token} (rest : Rests world others digest token) :
      Rests world standings digest token := by
    refine ⟨rest.1, fun pending => rest.2 ?_⟩
    rcases pending with ⟨standing, member, record⟩
    exact ⟨standing, (same standing).mpr member, record⟩
  refine ⟨orderly.filed, fun standing member => orderly.pending standing ((same standing).mp member),
    fun first one second other restsOne restsOther =>
      orderly.alone first one second other (rests restsOne) (rests restsOther),
    fun standing member record opens digest token rest =>
      orderly.opening standing ((same standing).mp member) record opens digest token (rests rest),
    fun standing member token refreshes => ?_,
    fun standing member => orderly.concerned standing ((same standing).mp member)⟩
  rcases orderly.presented standing ((same standing).mp member) token refreshes with
    ⟨giver, listed, record⟩
  exact ⟨giver, (same giver).mpr listed, record⟩

theorem presented_step (orderly : Orderly service world ((call, stage) :: others))
    (gives : forall record, stage.given? = some record -> next.given? = some record) :
    ∀ standing ∈ (call, next) :: others, forall token, standing.1 = .refresh token ->
      ∃ giver ∈ (call, next) :: others, ∃ record, giver.2.given? = some record ∧
        record.digest = service.tokenDigest token := by
  intro standing member token refreshes
  have before : ∃ earlier ∈ (call, stage) :: others, earlier.1 = .refresh token := by
    rcases List.mem_cons.mp member with rfl | old
    · exact ⟨(call, stage), List.mem_cons_self, refreshes⟩
    · exact ⟨standing, List.mem_cons_of_mem _ old, refreshes⟩
  rcases before with ⟨earlier, listed, presents⟩
  rcases orderly.presented earlier listed token presents with ⟨giver, given, record, gave, same⟩
  rcases List.mem_cons.mp given with rfl | old
  · exact ⟨(call, next), List.mem_cons_self, record, gives record gave, same⟩
  · exact ⟨giver, List.mem_cons_of_mem _ old, record, gave, same⟩

theorem concerned_step (orderly : Orderly service world ((call, stage) :: others))
    (less : ∀ standing ∈ (call, stage) :: others, forall token, standing.1 = .refresh token ->
      forall stored, later.record? (service.tokenDigest token) = some stored ->
        world.record? (service.tokenDigest token) = some stored)
    (concerns : forall token owner, call = .refresh token -> stage.Concerns owner ->
      (forall stored, world.record? (service.tokenDigest token) = some stored ->
        stored.owner = owner) ->
      next.Concerns owner) :
    ∀ standing ∈ (call, next) :: others, forall token, standing.1 = .refresh token ->
      ∃ owner, standing.2.Concerns owner ∧
        forall stored, later.record? (service.tokenDigest token) = some stored ->
          stored.owner = owner := by
  intro standing member token refreshes
  rcases List.mem_cons.mp member with rfl | old
  · rcases orderly.concerned _ List.mem_cons_self token refreshes with ⟨owner, concerned, owned⟩
    refine ⟨owner, concerns token owner refreshes concerned owned, fun stored found => ?_⟩
    exact owned stored (less _ List.mem_cons_self token refreshes stored found)
  · rcases orderly.concerned standing (List.mem_cons_of_mem _ old) token refreshes with
      ⟨owner, concerned, owned⟩
    refine ⟨owner, concerned, fun stored found => ?_⟩
    exact owned stored (less standing (List.mem_cons_of_mem _ old) token refreshes stored found)

/-- A step that stores nothing and brings no token to rest. -/
theorem recede (orderly : Orderly service world ((call, stage) :: others))
    (filed : later.stores.credentials.IsFiled)
    (less : forall digest token, later.record? digest = some token ->
      world.record? digest = some token)
    (takes : forall record, stage.pending? = some record ->
      next.pending? = some record ∨ later.record? record.digest = none)
    (pends : forall record, next.pending? = some record -> stage.pending? = some record)
    (opens : forall record, next = .opening record ->
      forall digest token, later.record? digest = some token -> token.owner ≠ record.owner)
    (gives : forall record, stage.given? = some record -> next.given? = some record)
    (concerns : forall token owner, call = .refresh token -> stage.Concerns owner ->
      (forall stored, world.record? (service.tokenDigest token) = some stored ->
        stored.owner = owner) ->
      next.Concerns owner) :
    Orderly service later ((call, next) :: others) := by
  have rests {digest token} (rest : Rests later ((call, next) :: others) digest token) :
      Rests world ((call, stage) :: others) digest token := by
    refine ⟨less digest token rest.1, ?_⟩
    rintro ⟨standing, member, record, pending, rfl⟩
    rcases List.mem_cons.mp member with rfl | old
    · rcases takes record pending with still | gone
      · exact rest.2 ⟨(call, next), List.mem_cons_self, record, still, rfl⟩
      · rw [rest.1] at gone
        cases gone
    · exact rest.2 ⟨standing, List.mem_cons_of_mem _ old, record, pending, rfl⟩
  refine ⟨filed, ?_, ?_, ?_, orderly.presented_step gives,
    orderly.concerned_step (fun _ _ _ _ => less _) concerns⟩
  · intro standing member record pending token stored
    rcases List.mem_cons.mp member with rfl | old
    · exact orderly.pending _ List.mem_cons_self record (pends record pending) token
        (less _ _ stored)
    · exact orderly.pending standing (List.mem_cons_of_mem _ old) record pending token
        (less _ _ stored)
  · intro first one second other restsOne restsOther
    exact orderly.alone first one second other (rests restsOne) (rests restsOther)
  · intro standing member record opening digest token rest
    rcases List.mem_cons.mp member with rfl | old
    · exact opens record opening digest token rest.1
    · exact orderly.opening standing (List.mem_cons_of_mem _ old) record opening digest token
        (rests rest)

/-- A step after which a call has no token of its own, because it drew none
or because none of that digest is stored. -/
theorem abandon (orderly : Orderly service world ((call, stage) :: others))
    (filed : later.stores.credentials.IsFiled)
    (less : forall digest token, later.record? digest = some token ->
      world.record? digest = some token)
    (kept : stage.given? = none)
    (takes : forall record, stage.pending? = some record -> later.record? record.digest = none)
    (without : next.own? = none)
    (concerns : forall token owner, call = .refresh token -> stage.Concerns owner ->
      (forall stored, world.record? (service.tokenDigest token) = some stored ->
        stored.owner = owner) ->
      next.Concerns owner) :
    Orderly service later ((call, next) :: others) := by
  refine orderly.recede filed less
    (fun record pending => .inr (takes record pending)) ?_ ?_ ?_ concerns
  · intro record pending
    rw [Stage.own?_of_pending? pending] at without
    cases without
  · rintro record rfl
    cases without
  · intro record given
    rw [kept] at given
    cases given

/-- A call that begins has drawn nothing yet. -/
theorem join (orderly : Orderly service world standings) (call : ServiceCall)
    (presented : forall token, call = .refresh token -> ∃ giver ∈ standings, ∃ record,
      giver.2.given? = some record ∧ record.digest = service.tokenDigest token) :
    Orderly service world ((call, .start) :: standings) := by
  have rests {digest token} (rest : Rests world ((call, .start) :: standings) digest token) :
      Rests world standings digest token := by
    refine ⟨rest.1, ?_⟩
    rintro ⟨standing, member, record⟩
    exact rest.2 ⟨standing, List.mem_cons_of_mem _ member, record⟩
  refine ⟨orderly.filed, ?_, ?_, ?_, ?_, ?_⟩
  · intro standing member record pending
    rcases List.mem_cons.mp member with rfl | old
    · cases pending
    · exact orderly.pending standing old record pending
  · intro first one second other restsOne restsOther
    exact orderly.alone first one second other (rests restsOne) (rests restsOther)
  · intro standing member record opening digest token rest
    rcases List.mem_cons.mp member with rfl | old
    · cases opening
    · exact orderly.opening standing old record opening digest token (rests rest)
  · intro standing member token refreshes
    have found : ∃ giver ∈ standings, ∃ record, giver.2.given? = some record ∧
        record.digest = service.tokenDigest token := by
      rcases List.mem_cons.mp member with rfl | old
      · exact presented token refreshes
      · exact orderly.presented standing old token refreshes
    rcases found with ⟨giver, listed, record⟩
    exact ⟨giver, List.mem_cons_of_mem _ listed, record⟩
  · intro standing member token refreshes
    rcases List.mem_cons.mp member with rfl | old
    · cases world.record? (service.tokenDigest token) with
      | none => exact ⟨(0, 0), ⟨nofun, nofun, nofun⟩, nofun⟩
      | some stored =>
        exact ⟨stored.owner, ⟨nofun, nofun, nofun⟩,
          fun _ same => congrArg _ (Option.some.inj same).symm⟩
    · exact orderly.concerned standing old token refreshes

/-- A refresh that exchanges its token brings its own to rest in the place of the presented one. -/
theorem rotate {token : String} {findings : Findings} {record : NewRefreshToken}
    {removed : RefreshToken}
    (orderly : Orderly service world ((.refresh token, .placed findings record) :: others))
    (distinct : (ownDigests ((ServiceCall.refresh token, Stage.placed findings record) :: others)).Nodup)
    (filed : later.stores.credentials.IsFiled)
    (less : forall digest stored, later.record? digest = some stored ->
      world.record? digest = some stored)
    (there : world.record? (service.tokenDigest token) = some removed)
    (gone : later.record? (service.tokenDigest token) = none) :
    Orderly service later ((.refresh token, .rotated record true) :: others) := by
  rcases orderly.concerned _ List.mem_cons_self token rfl with ⟨owner, concerned, owned⟩
  have removedOwner : removed.owner = record.owner :=
    (owned removed there).trans (Eq.symm concerned)
  have rested : Rests world ((.refresh token, .placed findings record) :: others) (service.tokenDigest token)
      removed := by
    rcases orderly.presented _ List.mem_cons_self token rfl with ⟨giver, listed, given, gave, same⟩
    exact ⟨there, same ▸ not_pending_of_given distinct listed gave⟩
  have rests {digest stored}
      (rest : Rests later ((.refresh token, .rotated record true) :: others) digest stored) :
      (digest = record.digest ∧ stored.owner = record.owner) ∨
        Rests world ((.refresh token, .placed findings record) :: others) digest stored := by
    have before := less digest stored rest.1
    by_cases own : digest = record.digest
    · subst own
      exact .inl ⟨rfl, orderly.pending _ List.mem_cons_self record rfl stored before⟩
    · refine .inr ⟨before, ?_⟩
      rintro ⟨standing, member, other, pending, same⟩
      rcases List.mem_cons.mp member with rfl | old
      · cases pending
        exact own same.symm
      · exact rest.2 ⟨standing, List.mem_cons_of_mem _ old, other, pending, same⟩
  -- Whatever is at rest for this owner besides the new token was the presented one, which is gone.
  have replaced {digest stored}
      (rest : Rests later ((.refresh token, .rotated record true) :: others) digest stored)
      (mine : stored.owner = record.owner) : digest = record.digest := by
    rcases rests rest with ⟨same, _⟩ | old
    · exact same
    · have same := orderly.alone _ _ _ _ old rested (mine.trans removedOwner.symm)
      rw [← same, rest.1] at gone
      cases gone
  refine ⟨filed, ?_, ?_, ?_, orderly.presented_step (fun _ given => nomatch given),
    orderly.concerned_step (fun _ _ _ _ => less _) fun _ _ _ _ _ => trivial⟩
  · intro standing member other pending stored found
    rcases List.mem_cons.mp member with rfl | old
    · cases pending
    · exact orderly.pending standing (List.mem_cons_of_mem _ old) other pending stored
        (less _ _ found)
  · intro first one second other restsOne restsOther same
    rcases rests restsOne with ⟨mine, owner⟩ | oldOne
    · rw [mine, replaced restsOther (same.symm.trans owner)]
    · rcases rests restsOther with ⟨mine, owner⟩ | oldOther
      · rw [mine, replaced restsOne (same.trans owner)]
      · exact orderly.alone first one second other oldOne oldOther same
  · intro standing member other opening digest stored rest
    rcases List.mem_cons.mp member with rfl | old
    · cases opening
    · have free := orderly.opening standing (List.mem_cons_of_mem _ old) other opening
      rcases rests rest with ⟨_, owner⟩ | earlier
      · rw [owner, ← removedOwner]
        exact free _ removed rested
      · exact free digest stored earlier

/-- A token that a call has not given out is not presented. -/
theorem presented_ne {record : NewRefreshToken}
    (orderly : Orderly service world ((call, stage) :: others))
    (distinct : (ownDigests ((call, stage) :: others)).Nodup) (own : stage.own? = some record)
    (kept : stage.given? = none) {standing : ServiceCall × Stage}
    (member : standing ∈ (call, stage) :: others) {token : String}
    (presents : standing.1 = .refresh token) : service.tokenDigest token ≠ record.digest := by
  rcases orderly.presented standing member token presents with ⟨giver, listed, given, gave, same⟩
  rcases List.mem_cons.mp listed with rfl | old
  · rw [kept] at gave
    cases gave
  · exact same ▸ ne_of_own distinct own old (Stage.own?_of_given? gave)

/-- A call that stores its token leaves order: a refresh may still take it
back, and a login has made sure that there is no other. -/
theorem store {record : NewRefreshToken} {stored : RefreshToken}
    (orderly : Orderly service world ((call, stage) :: others))
    (distinct : (ownDigests ((call, stage) :: others)).Nodup) (own : stage.own? = some record)
    (kept : stage.given? = none) (unstored : stage.pending? = none)
    (filed : later.stores.credentials.IsFiled) (there : later.record? record.digest = some stored)
    (owned : stored.owner = record.owner)
    (frame : forall digest, digest ≠ record.digest -> later.record? digest = world.record? digest)
    (becomes : next.pending? = some record ∨ next = .opened record ∧ stage = .opening record ∧
      ∀ standing ∈ others, forall other, standing.2 = .opening other -> other.owner ≠ record.owner)
    (concerns : forall token owner, call = .refresh token -> stage.Concerns owner ->
      next.Concerns owner) :
    Orderly service later ((call, next) :: others) := by
  have rests {digest token} (rest : Rests later ((call, next) :: others) digest token) :
      (digest = record.digest ∧ token.owner = record.owner ∧ stage = .opening record ∧
        ∀ standing ∈ others, forall other, standing.2 = .opening other ->
          other.owner ≠ record.owner) ∨
        Rests world ((call, stage) :: others) digest token := by
    by_cases mine : digest = record.digest
    · subst mine
      rcases becomes with pending | ⟨_, opening, apart⟩
      · exact absurd ⟨(call, next), List.mem_cons_self, record, pending, rfl⟩ rest.2
      · cases there.symm.trans rest.1
        exact .inl ⟨rfl, owned, opening, apart⟩
    · refine .inr ⟨(frame digest mine).symm.trans rest.1, ?_⟩
      rintro ⟨standing, member, other, pending, same⟩
      rcases List.mem_cons.mp member with rfl | old
      · rw [unstored] at pending
        cases pending
      · exact rest.2 ⟨standing, List.mem_cons_of_mem _ old, other, pending, same⟩
  refine ⟨filed, ?_, ?_, ?_, ?_, ?_⟩
  · intro standing member other pending token found
    rcases List.mem_cons.mp member with rfl | old
    · rcases becomes with same | ⟨rfl, _⟩
      · cases same.symm.trans pending
        cases there.symm.trans found
        exact owned
      · cases pending
    · have different := ne_of_own distinct own old (Stage.own?_of_pending? pending)
      rw [frame _ different] at found
      exact orderly.pending standing (List.mem_cons_of_mem _ old) other pending token found
  · intro first one second other restsOne restsOther same
    rcases rests restsOne with ⟨mine, owner, opening, _⟩ | oldOne
    · rcases rests restsOther with ⟨too, _⟩ | oldOther
      · rw [mine, too]
      · exact absurd (same.symm.trans owner)
          (orderly.opening _ List.mem_cons_self record opening _ _ oldOther)
    · rcases rests restsOther with ⟨_, owner, opening, _⟩ | oldOther
      · exact absurd (same.trans owner)
          (orderly.opening _ List.mem_cons_self record opening _ _ oldOne)
      · exact orderly.alone first one second other oldOne oldOther same
  · intro standing member other opening digest token rest
    rcases List.mem_cons.mp member with rfl | old
    · rcases becomes with pending | ⟨rfl, _⟩
      · simp only at opening
        rw [opening] at pending
        cases pending
      · cases opening
    · rcases rests rest with ⟨_, owner, _, apart⟩ | earlier
      · rw [owner]
        exact Ne.symm (apart standing old other opening)
      · exact orderly.opening standing
          (List.mem_cons_of_mem _ old) other opening digest token earlier
  · exact orderly.presented_step fun given gave => by rw [kept] at gave; cases gave
  · refine orderly.concerned_step (fun standing member token presents found => ?_)
      fun token owner refreshes before _ =>
      concerns token owner refreshes before
    rw [frame _ (orderly.presented_ne distinct own kept member presents)]
    exact id

end Orderly

/-! ## Every store call keeps order -/

/-- A reply leaves a call with the token that it drew, or without one. -/
theorem Stage.own?_replied (stage : Stage) (request : StoreCall)
    (reply : Option (Except Error request.Reply)) :
    (stage.replied request reply).own? = none ∨
    (stage.replied request reply).own? = stage.own? := by
  fun_cases Stage.replied stage request reply <;> first | exact .inl rfl | exact .inr rfl

/-- What a refresh looks up is about the owner of the presented token. -/
theorem Stage.concerns_asked {service : Service} {world : World} {token : String}
    {findings : Findings} {request : StoreCall} {owner : UserId × AppId}
    (filed : world.stores.credentials.IsFiled)
    (asks : (ServiceCall.refresh token).asks service findings request)
    (concerned : Stage.Concerns owner (.asking findings))
    (owned : forall stored, world.record? (service.tokenDigest token) = some stored ->
      stored.owner = owner) :
    Stage.Concerns owner (Stage.replied (.asking findings) request (world.endCall request .carriedOut).1) := by
  rcases concerned with ⟨presented, user, app⟩
  cases request with
  | credentials call =>
    cases call with
    | findUserById asked =>
      rcases asks with ⟨token, found, rfl⟩
      refine ⟨presented, fun record stored => ?_, app⟩
      exact (filed.users _ record stored).trans (congrArg Prod.fst (presented token found))
    | findAppById asked =>
      rcases asks with ⟨token, found, rfl⟩
      refine ⟨presented, user, fun record stored => ?_⟩
      exact (filed.apps _ record stored).trans (congrArg Prod.snd (presented token found))
    | isAdmin userId appId => exact ⟨presented, user, app⟩
    | _ => exact False.elim asks
  | tokens call =>
    cases call with
    | find asked =>
      cases asks
      exact ⟨owned, user, app⟩
    | deleteByToken gone => trivial
    | _ => exact False.elim asks

namespace Orderly

variable {service : Service} {world : World} {others : List (ServiceCall × Stage)}
  {call : ServiceCall} {stage : Stage}

/-- A store call that is carried out keeps order. -/
theorem called {request : StoreCall} (orderly : Orderly service world ((call, stage) :: others))
    (distinct : (ownDigests ((call, stage) :: others)).Nodup)
    (allowed : call.Allows service stage request)
    (apart : forall record, stage = .opening record ->
      ∀ standing ∈ others, forall other, standing.2 = .opening other ->
        other.owner ≠ record.owner) :
    Orderly service (world.endCall request .carriedOut).2
      ((call, stage.replied request (world.endCall request .carriedOut).1) :: others) := by
  have filed := world.isFiled_endCall orderly.filed request .carriedOut
  cases allowed with
  | @asked _ findings _ asks =>
    refine orderly.abandon filed (fun digest token => ?_) rfl nofun ?_ ?_
    · exact world.record?_of_endCall (ServiceCall.created?_of_asks asks) .carriedOut
    · exact (Stage.own?_replied (.asking findings) request _).elim id id
    · rintro token owner rfl concerned owned
      exact Stage.concerns_asked orderly.filed asks concerned owned
  | @revoked _ _ _ findings record =>
    refine orderly.recede filed (fun digest token => ?_) nofun nofun ?_ nofun nofun
    · exact world.record?_of_endCall rfl .carriedOut
    · intro other opening digest token stored same
      cases Stage.opening.inj opening
      have kept :=
        (world.record?_answer (.tokens (.deleteByOwner record.userId record.appId)) digest).symm.trans stored
      have foreign := (Option.filter_eq_some_iff.mp kept).2
      rcases Prod.mk.inj same with ⟨user, app⟩
      simp only [user, app, beq_self_eq_true, Bool.and_self, Bool.not_true] at foreign
      cases foreign
  | @opened _ _ _ record =>
    cases found : world.record? record.digest with
    | some taken =>
      rw [world.endCall_create_of_some record found]
      exact orderly.abandon orderly.filed (fun _ _ => id) rfl nofun rfl nofun
    | none =>
      rw [world.create_reply record found]
      exact orderly.store distinct rfl rfl rfl filed (world.record?_create_self record found) rfl
        (fun digest => world.record?_create_of_ne record .carriedOut)
        (.inr ⟨rfl, rfl, apart record rfl⟩) nofun
  | @placed token findings record =>
    cases found : world.record? record.digest with
    | some taken =>
      rw [world.endCall_create_of_some record found]
      exact orderly.abandon orderly.filed (fun _ _ => id) rfl nofun rfl fun _ _ _ _ _ => trivial
    | none =>
      rw [world.create_reply record found]
      exact orderly.store distinct rfl rfl rfl filed (world.record?_create_self record found) rfl
        (fun digest => world.record?_create_of_ne record .carriedOut) (.inl rfl) fun _ _ _ => id
  | @exchanged token findings record =>
    have less (digest : String) (stored : RefreshToken)
        (kept : (world.endCall (.tokens (.deleteByToken (service.tokenDigest token)))
          .carriedOut).2.record? digest = some stored) : world.record? digest = some stored :=
      world.record?_of_endCall rfl .carriedOut kept
    rw [world.deleteByToken_reply]
    cases found : world.record? (service.tokenDigest token) with
    | none =>
      exact orderly.recede filed less (fun _ => .inl) (fun _ => id) nofun nofun
        fun _ _ _ _ _ => trivial
    | some removed =>
      exact orderly.rotate distinct filed less found (world.record?_deleteByToken rfl)
  | @takenBack token record =>
    refine orderly.abandon filed (fun digest token => ?_) rfl ?_ rfl fun _ _ _ _ _ => trivial
    · exact world.record?_of_endCall rfl .carriedOut
    · rintro other ⟨⟩
      exact world.record?_deleteByToken rfl

end Orderly

end SingleSignOn

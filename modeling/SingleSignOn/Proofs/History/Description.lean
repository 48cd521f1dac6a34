import SingleSignOn.Proofs.History.Credentials
import SingleSignOn.Proofs.History.Tokens

namespace SingleSignOn

/-!
# The ledger describes the stores

The ledger of the calls so far tells what is in the stores, and every call
keeps it so: the calls that open no session by what they say they do, and
those that open one by the token they give out.
-/

/-- No run makes the store of users, apps and grants unsound. -/
theorem Program.run_isSound {α : Type} (program : Program α) (world : World)
    (sound : world.stores.credentials.IsSound) :
    (program.run world).2.stores.credentials.IsSound :=
  run_preserves (·.credentials.IsSound) program.callsOnly_true
    (fun stores now request _ => stores.isSound_answer now request) world sound

namespace Ledger

/-- The stores are what the calls so far make of them, where `past` are the
refresh tokens that were generated for these calls. -/
structure Describes (service : Service) (past : List String) (ledger : Ledger) (world : World) :
    Prop where
  sound : world.stores.credentials.IsSound
  mirrors : ledger.Mirrors world.stores.credentials
  covers : Covers service past world.record? world.now ledger.current
  owned : ∀ holding ∈ ledger.current, ledger.HasUser holding.userId ∧ ledger.HasApp holding.appId

theorem describes_empty (service : Service) (world : World) (empty : world.stores = .empty) :
    Ledger.empty.Describes service [] world := by
  refine ⟨empty ▸ CredentialStore.isSound_empty, empty ▸ Mirrors.empty,
    Covers.empty fun digest => ?_, fun _ member => ?_⟩
  · unfold World.record?
    rw [empty]
    rfl
  · exact (List.not_mem_nil member).elim

namespace Describes

variable {service : Service} {past : List String} {ledger : Ledger} {world later : World}
  (describes : ledger.Describes service past world)

include describes

/-- The calls that end no token and leave the records alone. -/
theorem covers_of_unchanged {entry : Answered}
    (unchanged : later.stores.tokens = world.stores.tokens)
    (nothing : ∀ holding ∈ ledger.current, ledger.ends entry holding = false) :
    Covers service past later.record? world.now
      (ledger.current.filter fun holding => !ledger.ends entry holding) := by
  have same (digest : String) : later.record? digest = world.record? digest := by
    rw [World.record?, unchanged, World.record?]
  refine describes.covers.narrow (fun digest record found => same digest ▸ found)
    fun holding member => ?_
  rw [nothing holding member]
  exact same _

theorem covers_updateUser {userId : UserId} {change : ProfileChange} {answer : Except Error User}
    (done : Operation.outcome (service.updateUser userId change) world = (answer, later)) :
    Covers service past later.record? world.now
      (ledger.current.filter fun holding =>
        !ledger.ends ⟨.updateUser userId change, answer, world.now⟩ holding) := by
  rcases service.updateUser_cases done with
    ⟨error, rfl, same⟩ | ⟨user, rfl, same, -, kept⟩ | ⟨hash, user, credentials, rfl, -, -, same⟩
  · exact describes.covers_of_unchanged (congrArg Stores.tokens same) fun _ _ => rfl
  · refine describes.covers_of_unchanged (congrArg Stores.tokens same) fun holding _ => ?_
    show (holding.userId == userId && change.password.isSome) = false
    rw [kept, Option.isSome_none, Bool.and_false]
  · by_cases renewed : change.password.isSome = true
    · rw [if_pos renewed] at same
      refine describes.covers.filter (fun record => record.userId == userId) (fun holding _ => ?_)
        fun digest => ?_
      · show _ = (holding.userId == userId && change.password.isSome)
        rw [renewed, Bool.and_true]
        rfl
      · rw [World.record?, same]
        exact world.stores.tokens.getElem?_answer world.now (.deleteByUser userId) digest
    · rw [if_neg renewed] at same
      refine describes.covers_of_unchanged (by rw [same]) fun holding _ => ?_
      show (holding.userId == userId && change.password.isSome) = false
      rw [Bool.not_eq_true] at renewed
      rw [renewed, Bool.and_false]

theorem covers_deleteUser {userId : UserId} {answer : Except Error Unit}
    (done : Operation.outcome (service.deleteUser userId) world = (answer, later)) :
    Covers service past later.record? world.now
      (ledger.current.filter fun holding =>
        !ledger.ends ⟨.deleteUser userId, answer, world.now⟩ holding) := by
  obtain ⟨found, credentials, deleted, same, rfl⟩ := service.deleteUser_cases done
  refine describes.covers.filter (fun record => record.userId == userId) (fun holding member => ?_)
    fun digest => ?_
  · cases found with
    | true => rfl
    | false =>
      -- Nobody had a token of a user who is not there.
      obtain ⟨user, stored⟩ := describes.mirrors.user_of_hasUser (describes.owned holding member).1
      refine beq_eq_false_iff_ne.mpr ?_
      rintro rfl
      cases stored.symm.trans (CredentialStore.deleteUser_of_absent deleted).2
  · rw [World.record?, same]
    exact world.stores.tokens.getElem?_answer world.now (.deleteByUser userId) digest

theorem covers_deleteApp {appId : AppId} {answer : Except Error Unit}
    (done : Operation.outcome (service.deleteApp appId) world = (answer, later)) :
    Covers service past later.record? world.now
      (ledger.current.filter fun holding =>
        !ledger.ends ⟨.deleteApp appId, answer, world.now⟩ holding) := by
  obtain ⟨found, credentials, deleted, same, rfl⟩ := service.deleteApp_cases done
  refine describes.covers.filter (fun record => record.appId == appId) (fun holding member => ?_)
    fun digest => ?_
  · cases found with
    | true => rfl
    | false =>
      obtain ⟨app, stored⟩ := describes.mirrors.app_of_hasApp (describes.owned holding member).2
      refine beq_eq_false_iff_ne.mpr ?_
      rintro rfl
      cases stored.symm.trans (CredentialStore.deleteApp_of_absent deleted).2
  · rw [World.record?, same]
    exact world.stores.tokens.getElem?_answer world.now (.deleteByApp appId) digest

theorem covers_logout {token : String} {answer : Except Error Bool}
    (presented : ∀ generated ∈ past, service.tokenDigest token = service.tokenDigest generated ->
      token = generated)
    (done : Operation.outcome (service.logout token) world = (answer, later)) :
    Covers service past later.record? world.now
      (ledger.current.filter fun holding =>
        !ledger.ends ⟨.logout token, answer, world.now⟩ holding) := by
  obtain ⟨-, deleted⟩ := service.logout_cases done
  refine describes.covers.narrow (fun digest record found => ?_) fun holding member => ?_
  · rw [deleted] at found
    split at found
    · cases found
    · exact found
  · rw [deleted]
    refine if_congr ⟨fun same => ?_, fun same => ?_⟩ rfl rfl
    · exact beq_iff_eq.mpr (presented _ (describes.covers.generated holding member) same).symm
    · rw [beq_iff_eq.mp same]

/-- A sweep takes only records away that are expired, and ends no token that is not. -/
theorem covers_sweep {answer : Except Error Nat}
    (done : Operation.outcome service.sweep world = (answer, later)) :
    Covers service past later.record? world.now ledger.current := by
  obtain ⟨-, swept⟩ := service.sweep_cases done
  refine describes.covers.forget (fun digest record found => ?_) fun digest record found good => ?_
  · rw [swept] at found
    exact (Option.filter_eq_some_iff.mp found).1
  · rw [swept, found]
    exact Option.filter_some_pos (congrArg not good)

/-- What a call that opens no session does to the records, the ledger knows. -/
theorem covers_note {call : ServiceCall} {answer : Except Error call.Reply}
    (other : call.opensSession = false)
    (presented : forall token, call = .logout token ->
      ∀ generated ∈ past, service.tokenDigest token = service.tokenDigest generated ->
        token = generated)
    (done : Operation.outcome (service.operation call) world = (answer, later)) :
    Covers service past later.record? world.now
      (ledger.current.filter fun holding => !ledger.ends ⟨call, answer, world.now⟩ holding) := by
  cases leaves : call.leavesTokens with
  | true =>
    refine describes.covers_of_unchanged (ServiceCall.tokens_of_leavesTokens leaves done)
      fun holding _ => ?_
    cases call <;> first | rfl | cases leaves
  | false =>
    cases call with
    | login email password appId => cases other
    | refresh token => cases other
    | logout token => exact describes.covers_logout (presented token rfl) done
    | updateUser userId change => exact describes.covers_updateUser done
    | deleteUser userId => exact describes.covers_deleteUser done
    | deleteApp appId => exact describes.covers_deleteApp done
    | sweep =>
      have lasting : (ledger.current.filter fun holding =>
          !ledger.ends ⟨.sweep, answer, world.now⟩ holding) =
          ledger.current := List.filter_eq_self.mpr fun _ _ => rfl
      rw [lasting]
      exact describes.covers_sweep done
    | _ => cases leaves

theorem mono {others : List String} (generated : ∀ token ∈ past, token ∈ others) :
    ledger.Describes service others world :=
  ⟨describes.sound, describes.mirrors, describes.covers.mono generated, describes.owned⟩

/-- The owners of the tokens that a call does not end are still there. -/
theorem owned_note {entry : Answered} {holding : Holding} (member : holding ∈ ledger.current)
    (lasts : ledger.ends entry holding = false) :
    (ledger.note entry).HasUser holding.userId ∧ (ledger.note entry).HasApp holding.appId :=
  ⟨hasUser_note (describes.owned holding member).1 lasts,
   hasApp_note (describes.owned holding member).2 lasts⟩

/-- A call that gives out no token keeps the ledger in step, if it keeps its parts in step. -/
theorem note_of_opened?_eq_none {entry : Answered} (opens : ledger.opened? entry = none)
    (sound : later.stores.credentials.IsSound)
    (mirrors : (ledger.note entry).Mirrors later.stores.credentials)
    (covers : Covers service past later.record? world.now
      (ledger.current.filter fun holding => !ledger.ends entry holding))
    (clock : later.now = world.now) : (ledger.note entry).Describes service past later := by
  have current : (ledger.note entry).current =
      ledger.current.filter fun holding => !ledger.ends entry holding := by
    unfold note
    rw [opens]
    rfl
  refine ⟨sound, mirrors, ?_, fun holding member => ?_⟩
  · rw [current, clock]
    exact covers
  · rw [current, List.mem_filter, Bool.not_eq_true'] at member
    exact describes.owned_note member.1 member.2

theorem note_of_other {call : ServiceCall} {answer : Except Error call.Reply}
    (other : call.opensSession = false)
    (presented : forall token, call = .logout token ->
      ∀ generated ∈ past, service.tokenDigest token = service.tokenDigest generated ->
        token = generated)
    (done : Operation.outcome (service.operation call) world = (answer, later)) :
    (ledger.note ⟨call, answer, world.now⟩).Describes service past later := by
  have opens : ledger.opened? ⟨call, answer, world.now⟩ = none := by
    cases call <;> first | rfl | cases other
  refine describes.note_of_opened?_eq_none opens ?_
    (describes.mirrors.note describes.sound other done world.now)
    (describes.covers_note other presented done) (Operation.frame_of_outcome done).1
  have ran : Program.run (service.operation call).run world = (answer, later) := done
  have kept := (service.operation call).run.run_isSound world describes.sound
  rwa [ran] at kept

/-- A session that was not opened changes nothing, but the record of an expired
token may go away. -/
theorem note_of_rejected {call : ServiceCall} {error : Error} (opening : call.opensSession = true)
    (credentials : later.stores.credentials = world.stores.credentials)
    (covers : Covers service past later.record? world.now ledger.current)
    (clock : later.now = world.now) :
    (ledger.note ⟨call, .error error, world.now⟩).Describes service past later := by
  have opens : ledger.opened? ⟨call, .error error, world.now⟩ = none := by cases call <;> rfl
  have ends (holding : Holding) : ledger.ends ⟨call, .error error, world.now⟩ holding = false := by
    cases call <;> first | rfl | cases opening
  have mirrors := describes.mirrors.note_of_error call error world.now
  refine describes.note_of_opened?_eq_none opens (credentials ▸ describes.sound)
    (credentials ▸ mirrors) ?_ clock
  rw [List.filter_eq_self.mpr fun holding _ => congrArg not (ends holding)]
  exact covers

/-- A session that was opened puts a new token in the place of an old one. -/
theorem note_of_opened {entry : Answered} {opened : Holding}
    (opens : ledger.opened? entry = some opened)
    (ends : forall holding, ledger.ends entry holding = holding.sharesPair opened)
    (sound : later.stores.credentials.IsSound)
    (mirrors : (ledger.note entry).Mirrors later.stores.credentials)
    (owned : (ledger.note entry).HasUser opened.userId ∧ (ledger.note entry).HasApp opened.appId)
    (covers : Covers service (past ++ [opened.token]) later.record? world.now
      (opened :: ledger.current.filter fun holding => !holding.sharesPair opened))
    (clock : later.now = world.now) :
    (ledger.note entry).Describes service (past ++ [opened.token]) later := by
  have current : (ledger.note entry).current =
      opened :: ledger.current.filter fun holding => !holding.sharesPair opened := by
    unfold note
    simp only [opens, ends]
    rfl
  refine ⟨sound, mirrors, ?_, fun holding member => ?_⟩
  · rw [current, clock]
    exact covers
  · rw [current, List.mem_cons, List.mem_filter, Bool.not_eq_true'] at member
    rcases member with rfl | ⟨member, lasts⟩
    · exact owned
    · exact describes.owned_note member ((ends holding).trans lasts)

end Describes

end Ledger

/-- Both expiries of a session that is opened at an instant can be represented. -/
def Service.CanIssueAt (service : Service) (now : Instant) : Prop :=
  (AccessToken.expiry? service.auth.accessTokenLifetime now).isSome ∧
  (service.refreshDeadline? now).isSome

instance (service : Service) (now : Instant) : Decidable (service.CanIssueAt now) :=
  inferInstanceAs (Decidable (_ ∧ _))

/-- The random texts that are drawn between two worlds of a run in which nothing else is drawn. -/
def World.textsUntil (world later : World) : List String :=
  (List.range' world.draws (later.draws - world.draws)).map fun number =>
    Service.textOf (world.entropy number Service.randomTextLength)

theorem World.textsUntil_of_next {world later : World} (drawn : later.draws = world.draws + 1) :
    world.textsUntil later = [world.nextText] := by
  have one : later.draws - world.draws = 1 := by omega
  rw [textsUntil, one]
  rfl

namespace Ledger.Describes

variable {service : Service} {past : List String} {ledger : Ledger} {world later : World}
  (describes : ledger.Describes service past world)

include describes

theorem note_login {email password : String} {appId : AppId} {answer : Except Error Session}
    (issues : service.CanIssueAt world.now)
    (fresh : ∀ text ∈ world.textsUntil later, ∀ other ∈ past,
      service.tokenDigest other ≠ service.tokenDigest text)
    (done : Operation.outcome (service.login email password appId) world = (answer, later)) :
    (ledger.note ⟨.login email password appId, answer, world.now⟩).Describes service
      (past ++ world.textsUntil later) later := by
  obtain ⟨expiresAt, access⟩ := Option.isSome_iff_exists.mp issues.1
  obtain ⟨deadline, refresh⟩ := Option.isSome_iff_exists.mp issues.2
  rcases service.login_cases done access refresh with
    ⟨rfl, rfl⟩ | ⟨user, app, found, -, stored, -, credentials, drawn, opened⟩
  · refine .mono ?_ fun token member => List.mem_append_left _ member
    exact describes.note_of_rejected rfl rfl describes.covers rfl
  · have texts := World.textsUntil_of_next drawn
    rw [texts] at fresh ⊢
    have new := fresh world.nextText (List.mem_singleton_self _)
    obtain ⟨rfl, records⟩ := opened (describes.covers.free new)
    have appKey := describes.sound.apps appId app stored
    subst appKey
    let holding : Holding := ⟨world.nextText, user.id, app.id, world.now⟩
    have opens : ledger.opened? ⟨.login email password app.id, .ok (service.sessionFor user app
        (world.stores.credentials.isAdmin user.id app.id) world.nextText expiresAt), world.now⟩ =
          some holding := by
      show (ledger.userOf? email).map _ = _
      rw [describes.mirrors.userOf?_eq describes.sound found]
      rfl
    have mirrors := describes.mirrors
    have sound := describes.sound
    rw [← credentials] at mirrors sound
    refine describes.note_of_opened opens (fun other => ?_) sound
      ⟨mirrors.users, mirrors.apps, mirrors.admins⟩ ?_ ?_
      (Operation.frame_of_outcome done).1
    · show (ledger.opened? _).any other.sharesPair = _
      rw [opens]
      rfl
    · obtain ⟨listed, -⟩ := (describes.sound.findUserByEmail_eq_some_iff email user).mp found
      exact ⟨⟨user.email, (describes.mirrors.users user.id user.email).mpr ⟨user, listed, rfl⟩⟩,
        ⟨app, (describes.mirrors.apps app).mpr stored, rfl⟩⟩
    · refine describes.covers.replace new ?_ (fun digest record different kept => ?_)
        fun other member => ?_
      · rw [records, if_pos rfl, Service.refreshDeadline?_eq_some refresh world.nextText user.id app.id]
        rfl
      · rw [records, if_neg different] at kept
        exact (Option.filter_eq_some_iff.mp kept).1
      · rw [records, if_neg (Ne.symm (new other.token (describes.covers.generated other member)))]
        exact describes.covers.filter_eq member
          fun record => record.userId == user.id && record.appId == app.id

end Ledger.Describes

end SingleSignOn

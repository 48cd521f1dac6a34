import SingleSignOn.Proofs.History.Refreshing
import SingleSignOn.Proofs.RefreshToken.Stage

namespace SingleSignOn

/-!
# The history law of refresh tokens

Whatever is asked of a deployment, and however much time passes in between, a
refresh succeeds with the tokens that are in force by the history of calls
alone, while they are alive and their app is enabled, and with no others.

The law needs that the deployment starts without any record, that no store
call goes wrong, that the expiries of sessions can be represented, and that
no two refresh tokens have the same digest.
-/

/-- The refresh tokens that a call presents. -/
def ServiceCall.presented : ServiceCall -> List String
  | .refresh token => [token]
  | .logout token => [token]
  | _ => []

namespace Happening

/-- The refresh tokens that are presented. -/
def presented : Happening -> List String
  | .asked call _ => call.presented
  | .elapsed _ => []

/-- The refresh tokens that are drawn, whether or not they are given out. -/
def generated (service : Service) (world : World) : Happening -> List String
  | .asked call mishaps =>
    if call.opensSession then world.textsUntil ((asked call mishaps).take service world).2 else []
  | .elapsed _ => []

/-- A call without mishaps is recorded with its outcome. -/
theorem take_asked (service : Service) (world : World) (call : ServiceCall) :
    (asked call Mishaps.nothing).take service world =
      ([⟨call, (Operation.outcome (service.operation call) world).1, world.now⟩],
        (Operation.outcome (service.operation call) world).2) := by
  obtain ⟨answer, later⟩ := (service.program call).runUnder_nothing ⟨world, []⟩
  show ([(⟨call, ((service.program call).runUnder Mishaps.nothing ⟨world, []⟩).1, world.now⟩ : Answered)],
    ((service.program call).runUnder Mishaps.nothing ⟨world, []⟩).2.world) = _
  rw [answer, later]
  rfl

end Happening

/-- The refresh tokens that are drawn in a history. -/
def Service.generated (service : Service) (world : World) : List Happening -> List String
  | [] => []
  | happening :: later =>
    happening.generated service world ++ service.generated (happening.take service world).2 later

theorem Service.record_cons (service : Service) (world : World) (happening : Happening)
    (later : List Happening) :
    (service.record world (happening :: later)).1 =
      (happening.take service world).1 ++ (service.record (happening.take service world).2 later).1 :=
  rfl

namespace Ledger.Describes

variable {service : Service} {past : List String} {ledger : Ledger} {world later : World}
  (describes : ledger.Describes service past world)

include describes

theorem note {call : ServiceCall} {answer : Except Error call.Reply}
    (issues : call.opensSession = true -> service.CanIssueAt world.now)
    (presented : ∀ token ∈ call.presented, ∀ generated ∈ past,
      service.tokenDigest token = service.tokenDigest generated -> token = generated)
    (fresh : ∀ text ∈ (if call.opensSession then world.textsUntil later else []), ∀ other ∈ past,
      service.tokenDigest other ≠ service.tokenDigest text)
    (done : Operation.outcome (service.operation call) world = (answer, later)) :
    (ledger.note ⟨call, answer, world.now⟩).Describes service
      (past ++ if call.opensSession then world.textsUntil later else []) later := by
  cases opening : call.opensSession with
  | false =>
    refine .mono (describes.note_of_other opening (fun token same => ?_) done)
      fun text => List.mem_append_left _
    subst same
    exact presented token (List.mem_singleton_self token)
  | true =>
    cases call with
    | login email password appId => exact describes.note_login (issues rfl) fresh done
    | refresh token =>
      have known := presented token (List.mem_singleton_self token)
      exact (describes.note_refresh (issues rfl) known fresh done).2
    | _ => cases opening

/-- The ledger goes along with a history, and settles each refresh on its way. -/
theorem settles_of_record {happenings : List Happening}
    (smooth : ∀ happening ∈ happenings, happening.IsSmooth)
    (issues : ∀ entry ∈ (service.record world happenings).1, entry.call.opensSession = true ->
      service.CanIssueAt entry.instant)
    (distinct : ((past ++ service.generated world happenings).map service.tokenDigest).Nodup)
    (presented : ∀ token ∈ happenings.flatMap Happening.presented,
      ∀ generated ∈ past ++ service.generated world happenings,
        service.tokenDigest token = service.tokenDigest generated -> token = generated)
    {before after : List Answered} {token : String} {answer : Except Error Session} {now : Instant}
    (asked : (service.record world happenings).1 = before ++ ⟨.refresh token, answer, now⟩ :: after) :
    (before.foldl Ledger.note ledger).Settles service token now answer := by
  induction happenings generalizing past ledger world before with
  | nil => cases before <;> cases asked
  | cons happening later hypothesis =>
    cases happening with
    | elapsed nanoseconds =>
      have waited : ledger.Describes service past
          { world with now := ⟨world.now.nanoseconds + nanoseconds⟩ } :=
        ⟨describes.sound, describes.mirrors, describes.covers.wait (by dsimp only; omega),
         describes.owned⟩
      refine hypothesis waited (fun happening member => ?_) issues distinct presented asked
      exact smooth happening (List.mem_cons_of_mem _ member)
    | asked call mishaps =>
      obtain rfl : mishaps = Mishaps.nothing := smooth _ List.mem_cons_self
      rcases done : Operation.outcome (service.operation call) world with ⟨reply, between⟩
      have taken := Happening.take_asked service world call
      rw [done] at taken
      have recorded : (service.record world (.asked call Mishaps.nothing :: later)).1 =
          ⟨call, reply, world.now⟩ :: (service.record between later).1 := by
        rw [Service.record_cons, taken]
        rfl
      have drawn : service.generated world (.asked call Mishaps.nothing :: later) =
          (if call.opensSession then world.textsUntil between else []) ++
            service.generated between later := by
        rw [Service.generated, Happening.generated, taken]
      rw [recorded] at issues asked
      rw [drawn, ← List.append_assoc] at distinct presented
      have fresh : ∀ text ∈ (if call.opensSession then world.textsUntil between else []),
          ∀ other ∈ past, service.tokenDigest other ≠ service.tokenDigest text := by
        intro text new other old
        rw [List.map_append, List.map_append, List.nodup_append] at distinct
        exact (List.nodup_append.mp distinct.1).2.2 _ (List.mem_map_of_mem old) _
          (List.mem_map_of_mem new)
      have known : ∀ token ∈ call.presented, ∀ generated ∈ past,
          service.tokenDigest token = service.tokenDigest generated -> token = generated := by
        intro token shown generated old
        refine presented token (List.mem_append_left _ shown) generated ?_
        exact List.mem_append_left _ (List.mem_append_left _ old)
      have opens : call.opensSession = true -> service.CanIssueAt world.now :=
        issues _ List.mem_cons_self
      cases before with
      | nil =>
        cases asked
        have shown := known token (List.mem_singleton_self token)
        exact (describes.note_refresh (opens rfl) shown fresh done).1
      | cons entry others =>
        obtain ⟨rfl, rest⟩ := List.cons.inj asked
        refine hypothesis (describes.note opens known fresh done) (fun happening member => ?_)
          (fun entry member => ?_) distinct (fun token shown => ?_) rest
        · exact smooth happening (List.mem_cons_of_mem _ member)
        · exact issues entry (List.mem_cons_of_mem _ member)
        · exact presented token (List.mem_append_right _ shown)

end Ledger.Describes

/-- A refresh succeeds if and only if the presented token is current by the
history of calls, alive by the clock, and for an app that is enabled now.
The new session is then for the same user and app, with the email and the
grant of now, and its refresh token is the current one.  Every other refresh
is rejected as invalid. -/
theorem refresh_law (service : Service) (world : World) (happenings : List Happening)
    (empty : world.stores = .empty) (smooth : ∀ happening ∈ happenings, happening.IsSmooth)
    (issues : ∀ entry ∈ (service.record world happenings).1, entry.call.opensSession = true ->
      service.CanIssueAt entry.instant)
    (distinct : ((service.generated world happenings).map service.tokenDigest).Nodup)
    (presented : ∀ token ∈ happenings.flatMap Happening.presented,
      ∀ generated ∈ service.generated world happenings,
      service.tokenDigest token = service.tokenDigest generated -> token = generated)
    (before after : List Answered) (token : String) (answer : Except Error Session) (now : Instant)
    (asked : (service.record world happenings).1 = before ++ ⟨.refresh token, answer, now⟩ :: after) :
    ((∃ session, answer = .ok session) ↔
      ∃ holding, IsCurrent before holding ∧ holding.token = token ∧
        holding.IsAlive service now ∧ (Ledger.of before).Enables holding.appId) ∧
    (forall session holding,
      answer = .ok session -> IsCurrent before holding -> holding.token = token ->
      session.IsFor service (Ledger.of before) now holding.userId holding.appId ∧
        IsCurrent (before ++ [⟨.refresh token, answer, now⟩])
          ⟨session.refreshToken, holding.userId, holding.appId, now⟩) ∧
    (forall error, answer = .error error -> error = .invalidCredentials) := by
  have settled : (Ledger.of before).Settles service token now answer :=
    (Ledger.describes_empty service world empty).settles_of_record smooth issues distinct presented
      asked
  simp only [← Ledger.mem_current_iff]
  refine ⟨settled.succeeds, fun session holding succeeded member same => ?_, settled.refuses⟩
  subst succeeded
  obtain ⟨forPair, opened⟩ := settled.renews session rfl holding member same
  refine ⟨forPair, (Ledger.mem_current_iff _ _).mpr ?_⟩
  exact (isCurrent_append_singleton before _ _).mpr (.inl opened)

namespace Sample

/-- A world without any record. -/
def start : World := { world with stores := .empty }

/-- The refresh token of a login that comes after a registration. -/
def firstToken : String := Service.textOf (List.replicate Service.randomTextLength 1)

/-- A user registers and logs in, and then refreshes twice with the same token. -/
def visit : List Happening :=
  [.register email password Profile.empty, .createApp "app" "" (some "secret"), .login email password 1,
    .refresh firstToken, .refresh firstToken].map fun call => .asked call Mishaps.nothing

end Sample

/-- Whether a call is a refresh with a token, and successful. -/
def Answered.renews (token : String) : Answered -> Bool
  | ⟨.refresh presented, .ok _, _⟩ => presented == token
  | _ => false

/-- The first refresh of the visit succeeds, so its token was current. -/
theorem refresh_law_of_visit :
    Sample.start.stores = .empty ∧ (∀ happening ∈ Sample.visit, happening.IsSmooth) ∧
    (∀ entry ∈ (Sample.service.record Sample.start Sample.visit).1,
      entry.call.opensSession = true -> Sample.service.CanIssueAt entry.instant) ∧
    ((Sample.service.generated Sample.start Sample.visit).map Sample.service.tokenDigest).Nodup ∧
    (∀ token ∈ Sample.visit.flatMap Happening.presented,
      ∀ generated ∈ Sample.service.generated Sample.start Sample.visit,
        Sample.service.tokenDigest token = Sample.service.tokenDigest generated ->
        token = generated) ∧
    ∃ before after session now,
      (Sample.service.record Sample.start Sample.visit).1 =
        before ++ ⟨.refresh Sample.firstToken, .ok session, now⟩ :: after ∧
      ∃ holding, IsCurrent before holding ∧ holding.token = Sample.firstToken ∧
        holding.IsAlive Sample.service now ∧ (Ledger.of before).Enables holding.appId := by
  have smooth : ∀ happening ∈ Sample.visit, happening.IsSmooth :=
    List.forall_mem_map.mpr fun _ _ => rfl
  have issues : ∀ entry ∈ (Sample.service.record Sample.start Sample.visit).1,
      entry.call.opensSession = true -> Sample.service.CanIssueAt entry.instant := by decide +kernel
  have distinct : ((Sample.service.generated Sample.start Sample.visit).map
      Sample.service.tokenDigest).Nodup := by decide +kernel
  have presented : ∀ token ∈ Sample.visit.flatMap Happening.presented,
      ∀ generated ∈ Sample.service.generated Sample.start Sample.visit,
        Sample.service.tokenDigest token = Sample.service.tokenDigest generated ->
        token = generated := by
    decide +kernel
  have renewed : (Sample.service.record Sample.start Sample.visit).1.any
      (Answered.renews Sample.firstToken) = true := by decide +kernel
  refine ⟨rfl, smooth, issues, distinct, presented, ?_⟩
  obtain ⟨entry, member, renews⟩ := List.any_eq_true.mp renewed
  obtain ⟨before, after, asked⟩ := List.append_of_mem member
  unfold Answered.renews at renews
  split at renews
  · next token session now =>
    obtain rfl := beq_iff_eq.mp renews
    have law :=
      refresh_law Sample.service Sample.start Sample.visit rfl smooth issues distinct presented
        before after
      _ _ now asked
    exact ⟨before, after, session, now, asked, law.1.mp ⟨session, rfl⟩⟩
  · cases renews

end SingleSignOn

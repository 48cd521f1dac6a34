import SingleSignOn.Proofs.History.Ledger
import SingleSignOn.Proofs.Service.Outcome

namespace SingleSignOn

/-!
# The ledger knows the refresh tokens

What is stored under the digest of a refresh token is told by the ledger,
with one exception: the record of an expired token may be gone already.  The
exception does no harm, since a token that has expired stays expired.
-/

namespace Holding

variable (service : Service) (holding : Holding)

/-- The instant from which on the token is of no use. -/
def deadline : Instant :=
  ⟨holding.since.nanoseconds +
    service.auth.refreshTokenDays * AuthSettings.secondsPerDay * Instant.perSecond⟩

/-- Whether the clock is strictly before the issue of the token plus its lifetime. -/
def IsAlive (now : Instant) : Prop :=
  now.nanoseconds < (holding.deadline service).nanoseconds

/-- The record of the token. -/
def record : RefreshToken :=
  ⟨service.tokenDigest holding.token, holding.userId, holding.appId, holding.deadline service,
   holding.since⟩

instance (now : Instant) : Decidable (holding.IsAlive service now) :=
  inferInstanceAs (Decidable (_ < _))

theorem not_isAlive_iff (now : Instant) :
    ¬holding.IsAlive service now ↔ (holding.record service).isExpiredAt now = true := by
  rw [IsAlive, Int.not_lt]
  exact decide_eq_true_iff.symm

theorem isExpiredAt_record {now : Instant} (alive : holding.IsAlive service now) :
    (holding.record service).isExpiredAt now = false := by
  rw [← Bool.not_eq_true, ← not_isAlive_iff]
  exact not_not_intro alive

end Holding

/-- The deadline of a refresh token is exact. -/
theorem Service.refreshDeadline?_eq_some {service : Service} {now deadline : Instant}
    (represented : service.refreshDeadline? now = some deadline) (token : String) (userId : UserId)
    (appId : AppId) :
    deadline = (⟨token, userId, appId, now⟩ : Holding).deadline service := by
  unfold refreshDeadline? at represented
  obtain ⟨seconds, fits, later⟩ := Option.bind_eq_some_iff.mp represented
  unfold AuthSettings.refreshTokenLifetime? at fits
  dsimp only at fits
  split at fits
  · cases fits
    unfold Instant.addSeconds? at later
    dsimp only at later
    split at later
    · exact (Option.some.inj later).symm
    · cases later
  · cases fits

/-- The records are those of the current tokens, up to expired ones.  Every
current token was generated in the past, and no two of them have the same
digest or the same user and app. -/
structure Covers (service : Service) (past : List String) (stored : String -> Option RefreshToken)
    (now : Instant) (current : List Holding) : Prop where
  recorded : forall digest record, stored digest = some record ->
    ∃ holding ∈ current, record = holding.record service ∧
      service.tokenDigest holding.token = digest
  held : ∀ holding ∈ current,
    stored (service.tokenDigest holding.token) = some (holding.record service) ∨
    ¬holding.IsAlive service now
  generated : ∀ holding ∈ current, holding.token ∈ past
  apart : ∀ first ∈ current, ∀ second ∈ current,
    service.tokenDigest first.token = service.tokenDigest second.token -> first = second
  single : ∀ first ∈ current, ∀ second ∈ current, first.sharesPair second = true -> first = second

namespace Covers

variable {service : Service} {past : List String} {stored after : String -> Option RefreshToken}
  {now : Instant}
  {current : List Holding}

theorem empty (nothing : forall digest, stored digest = none) :
    Covers service past stored now [] := by
  refine ⟨fun digest record found => ?_, ?_, ?_, ?_, ?_⟩
  · rw [nothing digest] at found
    cases found
  all_goals exact fun holding member => (List.not_mem_nil member).elim

variable (covers : Covers service past stored now current)

include covers

/-- A stored record under the digest of a current token is the token's own. -/
theorem record_eq {holding : Holding} (member : holding ∈ current) {record : RefreshToken}
    (found : stored (service.tokenDigest holding.token) = some record) :
    record = holding.record service := by
  obtain ⟨other, listed, same, digest⟩ := covers.recorded _ _ found
  rw [same, covers.apart other listed holding member digest]

/-- Deleting the records that a condition holds of is a matter of a token's own record. -/
theorem filter_eq {holding : Holding} (member : holding ∈ current)
    (condition : RefreshToken -> Bool) :
    ((stored (service.tokenDigest holding.token)).filter fun record => !condition record) =
      if condition (holding.record service) = true then none else stored (service.tokenDigest holding.token) := by
  cases found : stored (service.tokenDigest holding.token) with
  | none => rw [Option.filter_none, ite_self]
  | some record =>
    rw [covers.record_eq member found, Option.filter_some]
    cases condition (holding.record service) with
    | true => rfl
    | false => rfl

/-- A digest that no earlier token has is free. -/
theorem free {token : String}
    (fresh : ∀ other ∈ past, service.tokenDigest other ≠ service.tokenDigest token) :
    stored (service.tokenDigest token) = none := by
  cases found : stored (service.tokenDigest token) with
  | none => rfl
  | some record =>
    obtain ⟨holding, member, -, digest⟩ := covers.recorded _ _ found
    exact absurd digest (fresh holding.token (covers.generated holding member))

theorem mono {others : List String} (generated : ∀ token ∈ past, token ∈ others) :
    Covers service others stored now current :=
  ⟨covers.recorded, covers.held,
   fun holding member => generated _ (covers.generated holding member),
    covers.apart, covers.single⟩

/-- Time only makes more tokens expire. -/
theorem wait {later : Instant} (passed : now.nanoseconds ≤ later.nanoseconds) :
    Covers service past stored later current := by
  refine ⟨covers.recorded, fun holding member => ?_, covers.generated, covers.apart, covers.single⟩
  refine (covers.held holding member).imp_right fun expired alive => expired ?_
  exact Int.lt_of_le_of_lt passed alive

/-- Records of expired tokens may go away. -/
theorem forget (less : forall digest record, after digest = some record -> stored digest = some record)
    (kept : forall digest record, stored digest = some record -> record.isExpiredAt now = false ->
      after digest = some record) :
    Covers service past after now current := by
  refine ⟨fun digest record found => covers.recorded digest record (less digest record found),
    fun holding member => ?_, covers.generated, covers.apart, covers.single⟩
  rcases covers.held holding member with found | expired
  · by_cases alive : holding.IsAlive service now
    · exact .inl (kept _ _ found (holding.isExpiredAt_record service alive))
    · exact .inr alive
  · exact .inr expired

/-- Some tokens end, and their records go away. -/
theorem narrow {ended : Holding -> Bool}
    (less : forall digest record, after digest = some record -> stored digest = some record)
    (kept : ∀ holding ∈ current, after (service.tokenDigest holding.token) =
      if ended holding = true then none else stored (service.tokenDigest holding.token)) :
    Covers service past after now (current.filter fun holding => !ended holding) := by
  have listed {holding : Holding} : (holding ∈ current.filter fun holding => !ended holding) ↔
      holding ∈ current ∧ ¬ended holding = true := by
    rw [List.mem_filter, Bool.not_eq_true', Bool.not_eq_true]
  refine ⟨fun digest record found => ?_, fun holding member => ?_, fun holding member => ?_,
    fun first one second two => ?_, fun first one second two => ?_⟩
  · obtain ⟨holding, member, same, rfl⟩ := covers.recorded digest record (less digest record found)
    refine ⟨holding, listed.mpr ⟨member, fun ends => ?_⟩, same, rfl⟩
    rw [kept holding member, if_pos ends] at found
    cases found
  · obtain ⟨member, lasts⟩ := listed.mp member
    rw [kept holding member, if_neg lasts]
    exact covers.held holding member
  · exact covers.generated holding (listed.mp member).1
  · exact covers.apart first (listed.mp one).1 second (listed.mp two).1
  · exact covers.single first (listed.mp one).1 second (listed.mp two).1

/-- The records that a condition holds of are deleted, and the tokens end that it holds of. -/
theorem filter {ended : Holding -> Bool} (condition : RefreshToken -> Bool)
    (agrees : ∀ holding ∈ current, condition (holding.record service) = ended holding)
    (filtered : forall digest, after digest = (stored digest).filter fun record => !condition record) :
    Covers service past after now (current.filter fun holding => !ended holding) := by
  refine covers.narrow (fun digest record found => ?_) fun holding member => ?_
  · rw [filtered] at found
    exact (Option.filter_eq_some_iff.mp found).1
  · rw [filtered, covers.filter_eq member, agrees holding member]

/-- A new token takes the place of the ones for its user and app. -/
theorem replace {opened : Holding}
    (fresh : ∀ other ∈ past, service.tokenDigest other ≠ service.tokenDigest opened.token)
    (placed : after (service.tokenDigest opened.token) = some (opened.record service))
    (less : forall digest record, service.tokenDigest opened.token ≠ digest ->
      after digest = some record ->
      stored digest = some record)
    (kept : ∀ holding ∈ current, after (service.tokenDigest holding.token) =
      if holding.sharesPair opened = true then none else stored (service.tokenDigest holding.token)) :
    Covers service (past ++ [opened.token]) after now
      (opened :: current.filter fun holding => !holding.sharesPair opened) := by
  have listed {holding : Holding} :
      (holding ∈ opened :: current.filter fun holding => !holding.sharesPair opened) ↔
      holding = opened ∨ (holding ∈ current ∧ ¬holding.sharesPair opened = true) := by
    rw [List.mem_cons, List.mem_filter, Bool.not_eq_true', Bool.not_eq_true]
  have distinct (holding : Holding) (member : holding ∈ current) :
      service.tokenDigest holding.token ≠ service.tokenDigest opened.token :=
    fresh holding.token (covers.generated holding member)
  refine ⟨fun digest record found => ?_, fun holding member => ?_, fun holding member => ?_,
    fun first one second two same => ?_, fun first one second two same => ?_⟩
  · by_cases new : service.tokenDigest opened.token = digest
    · subst new
      exact ⟨opened, listed.mpr (.inl rfl), Option.some.inj (found.symm.trans placed), rfl⟩
    · obtain ⟨holding, member, same, rfl⟩ := covers.recorded digest record
        (less digest record new found)
      refine ⟨holding, listed.mpr (.inr ⟨member, fun shares => ?_⟩), same, rfl⟩
      rw [kept holding member, if_pos shares] at found
      cases found
  · rcases listed.mp member with rfl | ⟨old, lasts⟩
    · exact .inl placed
    · rw [kept holding old, if_neg lasts]
      exact covers.held holding old
  · rw [List.mem_append, List.mem_singleton]
    rcases listed.mp member with rfl | ⟨old, -⟩
    · exact .inr rfl
    · exact .inl (covers.generated holding old)
  · rcases listed.mp one with rfl | ⟨old, -⟩
    · rcases listed.mp two with rfl | ⟨other, -⟩
      · rfl
      · exact absurd same.symm (distinct second other)
    · rcases listed.mp two with rfl | ⟨other, -⟩
      · exact absurd same (distinct first old)
      · exact covers.apart first old second other same
  · rcases listed.mp one with rfl | ⟨old, lasts⟩
    · rcases listed.mp two with rfl | ⟨-, lasts⟩
      · rfl
      · exact absurd (Holding.sharesPair_comm .. ▸ same) lasts
    · rcases listed.mp two with rfl | ⟨other, -⟩
      · exact absurd same lasts
      · exact covers.single first old second other same

end Covers

end SingleSignOn

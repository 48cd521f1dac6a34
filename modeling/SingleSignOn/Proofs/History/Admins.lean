import SingleSignOn.Proofs.AccessToken.Lifetime
import SingleSignOn.Proofs.Api.Endpoints
import SingleSignOn.Proofs.History.Serving
import SingleSignOn.Proofs.Store.Refinement

namespace SingleSignOn

/-!
# Admin status follows the grants

A user is an admin of an app if the status was granted and nothing has taken
it back since.  This is said by the answers of a run alone.  Whatever the
service tells about admins is then read off the answers: the status of a
user, the members of an app, and the claim of a new access token.
-/

namespace Answered

/-- Whether a call made a user an admin of an app. -/
def grants (userId : UserId) (appId : AppId) : Answered -> Bool
  | ⟨.grantAdmin user app, .ok _, _⟩ => userId == user && appId == app
  | _ => false

/-- Whether a call ended what a user was for an app. -/
def revokes (userId : UserId) (appId : AppId) : Answered -> Bool
  | ⟨.revokeAdmin user app, .ok _, _⟩ => userId == user && appId == app
  | ⟨.deleteUser user, .ok _, _⟩ => userId == user
  | ⟨.deleteApp app, .ok _, _⟩ => appId == app
  | _ => false

end Answered

/-- A user was made an admin of an app, and nothing has ended that since. -/
def IsGranted (history : List Answered) (userId : UserId) (appId : AppId) : Prop :=
  ∃ earlier grant later, history = earlier ++ grant :: later ∧ grant.grants userId appId = true ∧
    ∀ next ∈ later, next.revokes userId appId = false

theorem not_isGranted_nil (userId : UserId) (appId : AppId) : ¬IsGranted [] userId appId := by
  rintro ⟨earlier, grant, later, empty, _⟩
  cases earlier <;> cases empty

/-- One more call either grants the status or leaves it in force. -/
theorem isGranted_append_singleton (history : List Answered) (entry : Answered) (userId : UserId)
    (appId : AppId) :
    IsGranted (history ++ [entry]) userId appId ↔
      entry.grants userId appId = true ∨
        (IsGranted history userId appId ∧ entry.revokes userId appId = false) := by
  constructor
  · rintro ⟨earlier, grant, later, split, granted, kept⟩
    rcases List.eq_nil_or_concat later with rfl | ⟨initial, last, rfl⟩
    · obtain ⟨-, same⟩ := List.append_inj' split rfl
      cases same
      exact .inl granted
    · rw [List.concat_eq_append, ← List.cons_append, ← List.append_assoc] at split
      obtain ⟨rfl, same⟩ := List.append_inj' split rfl
      cases same
      rw [List.concat_eq_append] at kept
      refine .inr ⟨⟨earlier, grant, initial, rfl, granted, fun next member => ?_⟩, ?_⟩
      · exact kept next (List.mem_append_left _ member)
      · exact kept entry (List.mem_append_right _ (List.mem_singleton_self entry))
  · rintro (granted | ⟨⟨earlier, grant, later, rfl, granted, kept⟩, unrevoked⟩)
    · exact ⟨history, entry, [], rfl, granted, fun _ member => absurd member List.not_mem_nil⟩
    · refine ⟨earlier, grant, later ++ [entry], by rw [List.append_assoc]; rfl, granted, fun next member => ?_⟩
      rcases List.mem_append.mp member with before | last
      · exact kept next before
      · rw [List.mem_singleton.mp last]
        exact unrevoked

namespace Ledger

theorem mem_adminsAfter_iff (ledger : Ledger) (entry : Answered) (userId : UserId) (appId : AppId) :
    ⟨userId, appId⟩ ∈ ledger.adminsAfter entry ↔
      entry.grants userId appId = true ∨
        (⟨userId, appId⟩ ∈ ledger.admins ∧ entry.revokes userId appId = false) := by
  unfold adminsAfter Answered.grants Answered.revokes
  split
  · next user app granted instant =>
    simp only [List.mem_cons, Grant.mk.injEq, Bool.and_eq_true, beq_iff_eq, and_true]
  · next user app revoked instant =>
    simp only [List.mem_filter, bne_iff_ne, ne_eq, Grant.mk.injEq, Bool.false_eq_true, false_or,
      ← Bool.not_eq_true, Bool.and_eq_true, beq_iff_eq]
  · next user deleted instant =>
    simp only [List.mem_filter, bne_iff_ne, ne_eq, Bool.false_eq_true, false_or, beq_eq_false_iff_ne]
  · next app deleted instant =>
    simp only [List.mem_filter, bne_iff_ne, ne_eq, Bool.false_eq_true, false_or, beq_eq_false_iff_ne]
  · simp only [Bool.false_eq_true, false_or, and_true]

/-- The ledger has the grants that are in force by the history itself. -/
theorem mem_admins_iff (history : List Answered) (userId : UserId) (appId : AppId) :
    ⟨userId, appId⟩ ∈ (of history).admins ↔ IsGranted history userId appId := by
  induction history using List.reverseRecOn with
  | nil => exact iff_of_false List.not_mem_nil (not_isGranted_nil userId appId)
  | append_singleton history entry hypothesis =>
    rw [isGranted_append_singleton, of_append_singleton, ← hypothesis]
    exact mem_adminsAfter_iff _ entry userId appId

end Ledger

instance (history : List Answered) (userId : UserId) (appId : AppId) :
    Decidable (IsGranted history userId appId) :=
  decidable_of_iff _ (Ledger.mem_admins_iff history userId appId)

/-! ## What the service tells -/

namespace Ledger.Follows

variable {history : List Answered} {world : World} (follows : Ledger.Follows history world)

include follows

theorem isAdmin_eq (userId : UserId) (appId : AppId) :
    world.stores.credentials.isAdmin userId appId = decide (IsGranted history userId appId) := by
  rw [← follows.mirrors.isAdmin_eq, Bool.eq_iff_iff, decide_eq_true_eq, ← mem_admins_iff]
  exact List.contains_iff_mem

/-- Everyone in the list for an app is an admin of it, and every admin is in the list. -/
theorem mem_listUsersForApp_iff (appId : AppId) (member : AppUser) :
    member ∈ world.stores.credentials.listUsersForApp appId ↔
      world.stores.credentials.users[member.user.id]? = some member.user ∧ member.isAdmin = true ∧
        IsGranted history member.user.id appId := by
  rw [follows.sound.toIsFiled.mem_listUsersForApp_iff, ← mem_admins_iff, follows.mirrors.admins]
  refine and_congr_right fun _ => ⟨fun granted => ?_, ?_⟩
  · have inForce := follows.inForce _ _ granted
    exact ⟨inForce, inForce ▸ granted⟩
  · rintro ⟨inForce, granted⟩
    rw [inForce]
    exact granted

end Ledger.Follows

namespace Sample

end Sample

end SingleSignOn

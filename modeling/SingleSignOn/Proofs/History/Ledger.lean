import Mathlib.Data.List.Induction
import SingleSignOn.Service.History

namespace SingleSignOn

/-!
# The ledger of a history

A ledger knows nothing of stores, digests or records.  It is kept from the
calls and their answers alone: who the users are and how they are reached,
which apps there are, who is an admin of what, and which refresh tokens are
in force.  A user holds at most one refresh token for an app, since a new one
takes the place of the old.

`Ledger.mem_current_iff` says the same about a token without a ledger of
tokens: it was given out by a call of the history, and no later call ended it.
-/

/-- A refresh token as it was given out: to whom, for which app, and when. -/
structure Holding where
  token : String
  userId : UserId
  appId : AppId
  since : Instant
  deriving DecidableEq, Repr

/-- Whether two tokens are for one user and one app. -/
def Holding.sharesPair (first second : Holding) : Bool :=
  first.userId == second.userId && first.appId == second.appId

theorem Holding.sharesPair_comm (first second : Holding) :
    first.sharesPair second = second.sharesPair first := by
  unfold sharesPair
  rw [BEq.comm, BEq.comm (a := first.appId)]

theorem Holding.sharesPair_self (holding : Holding) : holding.sharesPair holding = true := by
  rw [sharesPair, beq_self_eq_true, beq_self_eq_true]
  rfl

/-- What the answers so far tell. -/
structure Ledger where
  /-- The users, and the email that each of them has now. -/
  users : List (UserId × String)
  /-- The apps as they are now. -/
  apps : List App
  /-- The grants in force. -/
  admins : List Grant
  /-- The refresh tokens that were neither replaced nor revoked. -/
  current : List Holding
  deriving DecidableEq, Repr

namespace Ledger

/-- The ledger before any call. -/
def empty : Ledger := ⟨[], [], [], []⟩

/-- The user who has an email. -/
def userOf? (ledger : Ledger) (email : String) : Option UserId :=
  (ledger.users.find? fun row => row.2 == email).map Prod.fst

/-- The email that a user has now. -/
def emailOf? (ledger : Ledger) (userId : UserId) : Option String :=
  (ledger.users.find? fun row => row.1 == userId).map Prod.snd

/-- The app of an id, as it is now. -/
def app? (ledger : Ledger) (appId : AppId) : Option App :=
  ledger.apps.find? fun app => app.id == appId

/-- Whether a user is an admin of an app now. -/
def isAdmin (ledger : Ledger) (userId : UserId) (appId : AppId) : Bool :=
  ledger.admins.contains ⟨userId, appId⟩

/-- Whom a token in force is for. -/
def holding? (ledger : Ledger) (token : String) : Option Holding :=
  ledger.current.find? fun holding => holding.token == token

/-- The refresh token that a call gives out.  A refresh keeps the user and the
app of the token that it was asked with. -/
def opened? (ledger : Ledger) : Answered -> Option Holding
  | ⟨.login email _ appId, .ok session, now⟩ =>
    (ledger.userOf? email).map fun userId => ⟨session.refreshToken, userId, appId, now⟩
  | ⟨.refresh token, .ok session, now⟩ =>
    (ledger.holding? token).map fun old => ⟨session.refreshToken, old.userId, old.appId, now⟩
  | _ => none

/-- Whether a call ends a refresh token: by a logout with it, by a new
password of the user, by the deletion of the user or the app, or because it
gives out another one for the same user and app. -/
def ends (ledger : Ledger) : Answered -> Holding -> Bool
  | ⟨.logout token, _, _⟩, holding => holding.token == token
  | ⟨.updateUser userId change, .ok _, _⟩, holding =>
    holding.userId == userId && change.password.isSome
  | ⟨.deleteUser userId, .ok _, _⟩, holding => holding.userId == userId
  | ⟨.deleteApp appId, .ok _, _⟩, holding => holding.appId == appId
  | entry, holding => (ledger.opened? entry).any holding.sharesPair

/-- The users after a call. -/
def usersAfter (ledger : Ledger) : Answered -> List (UserId × String)
  | ⟨.register email _ _, .ok userId, _⟩ => (userId, email) :: ledger.users
  | ⟨.updateUser userId change, .ok _, _⟩ =>
    ledger.users.map fun row => if row.1 = userId then (row.1, change.email.getD row.2) else row
  | ⟨.deleteUser userId, .ok _, _⟩ => ledger.users.filter fun row => row.1 != userId
  | _ => ledger.users

/-- The apps after a call. -/
def appsAfter (ledger : Ledger) : Answered -> List App
  | ⟨.createApp _ _ _, .ok app, _⟩ => app :: ledger.apps
  | ⟨.updateApp appId name link, .ok _, _⟩ =>
    ledger.apps.map fun app =>
      if app.id = appId then { app with name := name.getD app.name, link := link.getD app.link } else app
  | ⟨.setEnabled appId enabled, .ok _, _⟩ =>
    ledger.apps.map fun app => if app.id = appId then { app with enabled := enabled } else app
  | ⟨.deleteApp appId, .ok _, _⟩ => ledger.apps.filter fun app => app.id != appId
  | _ => ledger.apps

/-- The grants after a call. -/
def adminsAfter (ledger : Ledger) : Answered -> List Grant
  | ⟨.grantAdmin userId appId, .ok _, _⟩ => ⟨userId, appId⟩ :: ledger.admins
  | ⟨.revokeAdmin userId appId, .ok _, _⟩ =>
    ledger.admins.filter fun grant => grant != ⟨userId, appId⟩
  | ⟨.deleteUser userId, .ok _, _⟩ => ledger.admins.filter fun grant => grant.userId != userId
  | ⟨.deleteApp appId, .ok _, _⟩ => ledger.admins.filter fun grant => grant.appId != appId
  | _ => ledger.admins

/-- Takes a call and its answer into the ledger. -/
def note (ledger : Ledger) (entry : Answered) : Ledger where
  users := ledger.usersAfter entry
  apps := ledger.appsAfter entry
  admins := ledger.adminsAfter entry
  current := (ledger.opened? entry).toList ++
    ledger.current.filter fun holding => !ledger.ends entry holding

/-- The ledger of a history, the earliest call first. -/
def of (history : List Answered) : Ledger :=
  history.foldl note empty

/-- Whether there is a user of an id. -/
def HasUser (ledger : Ledger) (userId : UserId) : Prop :=
  exists email, (userId, email) ∈ ledger.users

/-- Whether there is an app of an id. -/
def HasApp (ledger : Ledger) (appId : AppId) : Prop :=
  ∃ app ∈ ledger.apps, app.id = appId

/-- A token goes when its user goes, so the user of one that stays has stayed. -/
theorem hasUser_note {ledger : Ledger} {entry : Answered} {holding : Holding}
    (has : ledger.HasUser holding.userId) (lasts : ledger.ends entry holding = false) :
    (ledger.note entry).HasUser holding.userId := by
  obtain ⟨email, listed⟩ := has
  show ∃ email, (holding.userId, email) ∈ ledger.usersAfter entry
  unfold usersAfter
  split
  · exact ⟨email, List.mem_cons_of_mem _ listed⟩
  · next userId change user instant =>
    by_cases same : holding.userId = userId
    · exact ⟨change.email.getD email, List.mem_map.mpr ⟨_, listed, if_pos same⟩⟩
    · exact ⟨email, List.mem_map.mpr ⟨_, listed, if_neg same⟩⟩
  · exact ⟨email, List.mem_filter.mpr ⟨listed, congrArg not lasts⟩⟩
  · exact ⟨email, listed⟩

theorem hasApp_note {ledger : Ledger} {entry : Answered} {holding : Holding}
    (has : ledger.HasApp holding.appId) (lasts : ledger.ends entry holding = false) :
    (ledger.note entry).HasApp holding.appId := by
  obtain ⟨app, listed, same⟩ := has
  show ∃ app ∈ ledger.appsAfter entry, app.id = holding.appId
  unfold appsAfter
  split
  · exact ⟨app, List.mem_cons_of_mem _ listed, same⟩
  · next appId name link changed instant =>
    refine ⟨_, List.mem_map.mpr ⟨app, listed, rfl⟩, ?_⟩
    split <;> exact same
  · next appId enabled instant =>
    refine ⟨_, List.mem_map.mpr ⟨app, listed, rfl⟩, ?_⟩
    split <;> exact same
  · refine ⟨app, List.mem_filter.mpr ⟨listed, ?_⟩, same⟩
    rw [same]
    exact congrArg not lasts
  · exact ⟨app, listed, same⟩

theorem of_append_singleton (history : List Answered) (entry : Answered) :
    of (history ++ [entry]) = (of history).note entry := by
  unfold of
  rw [List.foldl_append]
  rfl

end Ledger

/-- A refresh token was given out by a call of the history, the most recent
one to give out any for its user and app, and no call ended it since. -/
def IsCurrent (history : List Answered) (holding : Holding) : Prop :=
  exists earlier entry later, history = earlier ++ entry :: later ∧
    (Ledger.of earlier).opened? entry = some holding ∧
      forall middle next rest, later = middle ++ next :: rest ->
        (Ledger.of (earlier ++ entry :: middle)).ends next holding = false

theorem not_isCurrent_nil (holding : Holding) : ¬IsCurrent [] holding := by
  rintro ⟨earlier, entry, later, empty, _⟩
  cases earlier <;> cases empty

/-- One more call either gives the token out or leaves it in force. -/
theorem isCurrent_append_singleton (history : List Answered) (entry : Answered)
    (holding : Holding) :
    IsCurrent (history ++ [entry]) holding ↔
      (Ledger.of history).opened? entry = some holding ∨
        (IsCurrent history holding ∧ (Ledger.of history).ends entry holding = false) := by
  constructor
  · rintro ⟨earlier, opening, later, split, opened, kept⟩
    rcases List.eq_nil_or_concat later with rfl | ⟨initial, last, rfl⟩
    · obtain ⟨rfl, same⟩ := List.append_inj' split rfl
      cases same
      exact .inl opened
    · rw [List.concat_eq_append, ← List.cons_append, ← List.append_assoc] at split
      obtain ⟨rfl, same⟩ := List.append_inj' split rfl
      cases same
      refine .inr ⟨⟨earlier, opening, initial, rfl, opened, fun middle next rest here => ?_⟩, ?_⟩
      · refine kept middle next (rest ++ [entry]) ?_
        rw [here, List.concat_eq_append, List.append_assoc]
        rfl
      · exact kept initial entry [] (List.concat_eq_append ..)
  · rintro (opened | ⟨⟨earlier, opening, later, rfl, opened, kept⟩, unended⟩)
    · exact ⟨history, entry, [], rfl, opened,
        fun middle next rest here => by cases middle <;> cases here⟩
    · refine ⟨earlier, opening, later ++ [entry],
        by simp only [List.append_assoc, List.cons_append], opened, ?_⟩
      intro middle next rest here
      rcases List.eq_nil_or_concat rest with rfl | ⟨initial, last, rfl⟩
      · obtain ⟨rfl, same⟩ := List.append_inj' here rfl
        cases same
        exact unended
      · rw [List.concat_eq_append, ← List.cons_append, ← List.append_assoc] at here
        obtain ⟨rfl, -⟩ := List.append_inj' here rfl
        exact kept middle next initial rfl

/-- The ledger has the refresh tokens that are current by the history itself. -/
theorem Ledger.mem_current_iff (history : List Answered) (holding : Holding) :
    holding ∈ (of history).current ↔ IsCurrent history holding := by
  induction history using List.reverseRecOn with
  | nil => exact iff_of_false (List.not_mem_nil) (not_isCurrent_nil holding)
  | append_singleton history entry hypothesis =>
    rw [isCurrent_append_singleton, of_append_singleton, ← hypothesis]
    simp only [note, List.mem_append, Option.mem_toList, List.mem_filter, Bool.not_eq_true']

end SingleSignOn

import SingleSignOn.Proofs.Service.Entry

namespace SingleSignOn

/-!
# Logins and a change of the password

A login checks the password against the hash that it has found, some store
calls before it stores its token.  A new password is written first, and the
refresh tokens of the user are removed by a second store call.  A token that
is stored after that removal stays.  So what stays was opened with the new
password, or by a login that had found the old hash and was still in progress
when the tokens were removed.
-/

/-! ## Up to the change -/

/-- The look-up by which a login finds its user. -/
def ServiceCall.lookup? : ServiceCall -> Option StoreCall
  | .login email _ _ => some (.credentials (.findUserByEmail email))
  | _ => none

/-- Logins have looked up the users that they have found, and checked their passwords before they drew. -/
def Arriving (service : Service) (start : System) (past : List Event)
    (standings : List (ServiceCall × Entry)) : Prop :=
  forall (number : Nat) (call : ServiceCall) (stage : Entry), standings[number]? = some (call, stage) ->
    stage.Checked service call ∧ (stage.user?.isSome = true -> ∀ request ∈ call.lookup?,
      start.Asks service past number request)

theorem Arriving.kept {service : Service} {start : System} {past : List Event} {event : Event}
    {standings later : List (ServiceCall × Entry)} {world : World}
    (move : service.entries.Move (start.run service past) event standings world later)
    (arriving : Arriving service start past standings) : Arriving service start (past ++ [event]) later := by
  refine move.each (fun number call stage => stage.Checked service call ∧
    (stage.user?.isSome = true -> ∀ request ∈ call.lookup?, start.Asks service past number request))
    _ ?_ ?_ ?_ ?_ arriving
  · exact fun number call _ => ⟨nofun, nofun⟩
  · exact fun number call stage ⟨checked, looked⟩ =>
      ⟨checked, fun known request sought => (looked known request sought).more event⟩
  · intro number call stage bytes after drew ⟨checked, looked⟩
    refine ⟨checked.entered drew, fun known request sought => (looked ?_ request sought).more event⟩
    cases call with
    | login email password appId =>
      cases stage with
      | known user => rfl
      | _ => exact drew ▸ known
    | _ => exact drew ▸ known
  · intro number call stage request ending told requested allowed _ ⟨checked, looked⟩
    refine ⟨checked.replied, fun known lookup sought => ?_⟩
    rcases Option.isSome_iff_exists.mp known with ⟨user, known⟩
    rcases Entry.user?_replied rfl known with old | ⟨rfl, email, rfl, _⟩
    · exact (looked (by rw [old]; rfl) lookup sought).more event
    · cases call with
      | login address password appId =>
        cases sought
        cases allowed
        rw [told] at requested ⊢
        exact ⟨past, ending, [], rfl, requested⟩
      | _ => cases sought

/-! ## After the change is written -/

/-- A call that has no user left to change.  What it has found and written is
what is recorded now, unless it is a login that had looked its user up before. -/
structure Entrant (service : Service) (credentials : CredentialStore) (early : Prop)
    (call : ServiceCall) (stage : Entry) : Prop where
  calm : call.isLogin = true ∨ (∃ userId change, call = .updateUser userId change) ∧ stage ≠ .begun
  checked : stage.Checked service call
  found : forall user, stage.user? = some user -> early ∨ credentials.users[user.id]? = some user
  written : forall userId change, call = .updateUser userId change ->
    forall user, stage.written? = some user -> credentials.users[userId]? = some user

namespace Entrant

variable {service : Service} {credentials : CredentialStore} {early : Prop}
  {call : ServiceCall} {stage : Entry} (entrant : Entrant service credentials early call stage)

include entrant

/-- Nothing is changed any more. -/
theorem credentials_endCall {request : StoreCall} (allowed : call.enters stage request) (world : World)
    (ending : Ending) :
    (world.endCall request ending).2.stores.credentials = world.stores.credentials := by
  have harmless : request.IsLookup ∨ ∃ asked, request = .tokens asked := by
    rcases entrant.calm with login | ⟨⟨userId, change, rfl⟩, going⟩
    · cases call with
      | login email password appId =>
        cases stage with
        | begun => exact .inl (allowed ▸ trivial)
        | known user => exact .inl allowed
        | minted user record => exact .inr ⟨_, allowed⟩
        | opening user record => exact .inr ⟨_, allowed⟩
        | _ => exact False.elim allowed
      | _ => cases login
    · cases stage with
      | begun => exact absurd rfl going
      | written user => exact .inr ⟨_, allowed⟩
      | _ => exact False.elim allowed
  rcases world.endCall_cases request ending with same | same
  · rw [same]
  · rw [same]
    rcases harmless with looks | ⟨asked, rfl⟩
    · exact congrArg Stores.credentials (world.stores.answer_of_isLookup world.now looks)
    · rfl

/-- A login that has stored its token is done with the store. -/
theorem not_enters_of_opened {user : User} {token : NewRefreshToken} (opened : stage = .opened user token)
    (request : StoreCall) : ¬call.enters stage request := by
  subst opened
  intro allowed
  rcases entrant.calm with login | ⟨⟨_, _, rfl⟩, _⟩
  · cases call with
    | login email password appId => exact allowed
    | _ => cases login
  · exact allowed

/-- Only a login stores a token, and only its own. -/
theorem opening_of_created? {request : StoreCall} (allowed : call.enters stage request)
    {token : NewRefreshToken} (adds : request.created? = some token) :
    request = .tokens (.create token) ∧ ∃ user, stage = .opening user token := by
  rcases entrant.calm with login | ⟨⟨userId, change, rfl⟩, going⟩
  · cases call with
    | login email password appId =>
      cases stage with
      | begun =>
        cases allowed
        cases adds
      | known user =>
        rcases request with _ | _
        · cases adds
        · exact False.elim allowed
      | minted user record =>
        cases allowed
        cases adds
      | opening user record =>
        cases allowed
        cases adds
        exact ⟨rfl, user, rfl⟩
      | _ => exact False.elim allowed
    | _ => cases login
  · cases stage with
    | begun => exact absurd rfl going
    | written user =>
      cases allowed
      cases adds
    | _ => exact False.elim allowed

theorem replied (filed : credentials.IsFiled) {world : World} (same : world.stores.credentials = credentials)
    {request : StoreCall} (allowed : call.enters stage request) {ending : Ending}
    {reply : Option (Except Error request.Reply)} (told : (world.endCall request ending).1 = reply) :
    Entrant service credentials early call (stage.replied request reply) := by
  refine ⟨?_, entrant.checked.replied, fun user known => ?_, fun userId change changes user wrote => ?_⟩
  · exact entrant.calm.imp_right fun ⟨changes, going⟩ => ⟨changes, stage.replied_ne_begun request reply going⟩
  · rcases Entry.user?_replied told known with old | ⟨_, email, _, found⟩
    · exact entrant.found user old
    · rcases Option.bind_eq_some_iff.mp found with ⟨id, _, stored⟩
      rw [same] at stored
      exact .inr (filed.users id user stored ▸ stored)
  · rcases Entry.written?_replied told wrote with old | ⟨rfl, _⟩
    · exact entrant.written userId change changes user old
    · rcases entrant.calm with login | ⟨_, going⟩
      · rw [changes] at login
        cases login
      · exact absurd rfl going

theorem entered {bytes : Bytes} {after : Entry} (drew : call.entered service stage bytes after) :
    Entrant service credentials early call after := by
  have checked := entrant.checked.entered drew
  unfold ServiceCall.entered at drew
  split at drew
  · next email password appId user =>
    rcases drew with ⟨verified, app, expiresAt, rfl⟩
    exact ⟨.inl rfl, checked, entrant.found, fun _ _ => nofun⟩
  · rw [drew]
    exact entrant

end Entrant

/-- No call has a user left to change. -/
structure Guarded (service : Service) (credentials : CredentialStore) (early : Nat -> ServiceCall -> Prop)
    (world : World) (standings : List (ServiceCall × Entry)) : Prop where
  same : world.stores.credentials = credentials
  entrants : forall (number : Nat) (call : ServiceCall) (stage : Entry),
    standings[number]? = some (call, stage) -> Entrant service credentials (early number call) call stage

theorem Guarded.kept {service : Service} {credentials : CredentialStore} {early : Nat -> ServiceCall -> Prop}
    (filed : credentials.IsFiled) {system : System} {event : Event} {world : World}
    {standings later : List (ServiceCall × Entry)} (begins : ∀ call ∈ event.begun?, call.isLogin = true)
    (move : service.entries.Move system event standings world later)
    (guarded : Guarded service credentials early system.world standings) :
    Guarded service credentials early world later := by
  refine ⟨?_, move.each (fun number call stage => Entrant service credentials (early number call) call stage) _
    ?_ (fun _ _ _ => id) ?_ ?_ guarded.entrants⟩
  · cases move with
    | called before call stage after request ending told requested allowed =>
      have mover := guarded.entrants _ _ _ (getElem?_append_cons_length before (call, stage) after)
      exact (mover.credentials_endCall allowed system.world ending).trans guarded.same
    | _ => exact guarded.same
  · intro number call told
    exact ⟨.inl (begins call (by rw [told]; rfl)), nofun, fun _ => nofun, fun _ _ _ _ => nofun⟩
  · exact fun number call stage bytes after drew holds => holds.entered drew
  · exact fun number call stage request ending _ _ allowed _ holds =>
      holds.replied filed guarded.same allowed rfl

/-- A user who was changed is recorded as the change tells. -/
theorem CredentialStore.getElem?_updateUser {store : CredentialStore} {userId : UserId} {update : UserUpdate}
    {user : User} (done : (store.updateUser userId update).1 = .ok (some user)) :
    (store.updateUser userId update).2.users[userId]? = some user := by
  unfold CredentialStore.updateUser at done ⊢
  cases stored : store.users[userId]? with
  | none =>
    rw [stored] at done
    cases done
  | some current =>
    simp only [stored] at done ⊢
    split at done
    · next same =>
      rw [if_pos same]
      cases done
      exact Std.ExtTreeMap.getElem?_insert_self
    · next different =>
      rw [if_neg different]
      split at done
      · cases done
      · next free =>
        rw [if_neg free]
        cases done
        exact Std.ExtTreeMap.getElem?_insert_self

/-- Once a change is written, no call has a user left to change, and whatever
logins have found before they have looked up before. -/
theorem Guarded.start {service : Service} {start : System} {past : List Event} {event : Event}
    {world : World} {standings later : List (ServiceCall × Entry)} {changer : Nat} {userId : UserId}
    {change : ProfileChange} {update : UserUpdate}
    (writes : (start.run service past).request? event = some (.credentials (.updateUser userId update)))
    (move : service.entries.Move (start.run service past) event standings world later)
    (calls : forall (number : Nat) (call : ServiceCall) (stage : Entry), standings[number]? = some (call, stage) ->
      call.isLogin = true ∨ number = changer ∧ call = .updateUser userId change)
    (arriving : Arriving service start past standings) :
    Guarded service world.stores.credentials
      (fun number call => ∀ request ∈ call.lookup?, start.Asks service past number request) world later := by
  rcases move.called_of_request? writes with ⟨before, call, stage, after, ending, rfl, rfl, allowed, rfl, rfl⟩
  have moving := getElem?_append_cons_length before (call, stage) after
  rcases calls _ _ _ moving with login | ⟨rfl, rfl⟩
  · -- A login writes nothing.
    cases call with
    | login email password appId =>
      cases stage with
      | known user => exact False.elim allowed
      | begun => cases allowed
      | minted user record => cases allowed
      | opening user record => cases allowed
      | _ => exact False.elim allowed
    | _ => cases login
  · cases stage with
    | begun =>
      refine ⟨rfl, fun number call stage stands => ?_⟩
      by_cases mine : number = before.length
      · subst mine
        cases (getElem?_append_cons_length before _ after).symm.trans stands
        refine ⟨.inr ⟨⟨userId, change, rfl⟩, ?_⟩, (arriving _ _ _ moving).1.replied, fun user known => ?_,
          fun _ _ changes user wrote => ?_⟩
        · exact Entry.replied_updateUser_ne_begun _
        · rcases Entry.user?_replied rfl known with impossible | ⟨_, email, other, _⟩
          · cases impossible
          · cases other
        · cases changes
          rcases Entry.written?_replied rfl wrote with impossible | ⟨_, _, _, same, done, stored⟩
          · cases impossible
          · cases same
            rw [stored]
            exact CredentialStore.getElem?_updateUser done
      · have old := (eq_or_getElem?_of_middle before after (.updateUser userId change, .begun) _ stands).resolve_left
          fun here => mine here.1
        have login := (calls number call stage old).resolve_right fun here => mine here.1
        rcases arriving number call stage old with ⟨checked, looked⟩
        refine ⟨.inl login, checked, fun user known => .inl (looked (by rw [known]; rfl)), fun _ _ changes => ?_⟩
        rw [changes] at login
        cases login
    | written user => cases allowed
    | _ => exact False.elim allowed

/-! ## After the tokens are removed -/

/-- The refresh tokens of a user are those that logins have stored since all were removed. -/
def Restored (service : Service) (userId : UserId) (removed : System) (past : List Event) (world : World)
    (standings : List (ServiceCall × Entry)) : Prop :=
  forall digest record, world.record? digest = some record -> record.userId = userId ->
    ∃ number call user token, standings[number]? = some (call, .opened user token) ∧ token.digest = digest ∧
      token.userId = userId ∧ removed.Asks service past number (.tokens (.create token))

/-- A login that has stored its token makes no step any more. -/
theorem Guarded.stays {service : Service} {credentials : CredentialStore} {early : Nat -> ServiceCall -> Prop}
    {system : System} {event : Event} {world : World} {standings later : List (ServiceCall × Entry)}
    (move : service.entries.Move system event standings world later)
    (guarded : Guarded service credentials early system.world standings) {number : Nat} {call : ServiceCall}
    {user : User} {token : NewRefreshToken} (stands : standings[number]? = some (call, .opened user token)) :
    later[number]? = some (call, .opened user token) := by
  cases move with
  | began new told =>
    rw [List.getElem?_append_left (List.getElem?_eq_some_iff.mp stands).1]
    exact stands
  | clockSet => exact stands
  | stayed => exact stands
  | drew before mover stage next after bytes drawn moved =>
    rcases eq_or_getElem?_of_middle before after (mover, next) _ stands with ⟨rfl, same⟩ | other
    · cases same
      have unmoved : next = .opened user token := by
        cases call <;> exact moved
      rw [unmoved]
      exact getElem?_append_cons_length _ _ _
    · exact other
  | called before mover stage after request ending told requested allowed =>
    refine (eq_or_getElem?_of_middle before after (mover, _) _ stands).resolve_left fun ⟨_, same⟩ => ?_
    cases same
    have mover := guarded.entrants _ _ _ (getElem?_append_cons_length before (call, .opened user token) after)
    exact mover.not_enters_of_opened rfl request allowed

theorem Restored.kept {service : Service} {credentials : CredentialStore} {early : Nat -> ServiceCall -> Prop}
    {userId : UserId} {removed : System} {past : List Event} {event : Event} {world : World}
    {standings later : List (ServiceCall × Entry)} (smooth : event.IsSmooth)
    (move : service.entries.Move (removed.run service past) event standings world later)
    (guarded : Guarded service credentials early (removed.run service past).world standings)
    (restored : Restored service userId removed past (removed.run service past).world standings) :
    Restored service userId removed (past ++ [event]) world later := by
  have old (digest : String) (record : RefreshToken)
      (stored : (removed.run service past).world.record? digest = some record) (mine : record.userId = userId) :
      ∃ number call user token, later[number]? = some (call, .opened user token) ∧ token.digest = digest ∧
        token.userId = userId ∧ removed.Asks service (past ++ [event]) number (.tokens (.create token)) := by
    rcases restored digest record stored mine with ⟨number, call, user, token, stands, same, owner, asks⟩
    exact ⟨number, call, user, token, guarded.stays move stands, same, owner, asks.more event⟩
  intro digest record stored mine
  cases move with
  | called before call stage after request ending told requested allowed =>
    cases adds : request.created? with
    | none => exact old digest record ((removed.run service past).world.record?_of_endCall adds ending stored) mine
    | some token =>
      have mover := guarded.entrants _ _ _ (getElem?_append_cons_length before (call, stage) after)
      rcases mover.opening_of_created? allowed adds with ⟨rfl, user, rfl⟩
      rcases World.record?_of_create _ token ending stored with there | ⟨same, free, rfl⟩
      · exact old digest record there mine
      · subst told same
        cases smooth
        refine ⟨before.length, call, user, token, ?_, rfl, mine, past, .carriedOut, [], rfl, requested⟩
        rw [World.create_reply _ token free]
        exact getElem?_append_cons_length before _ after
  | _ => exact old digest record stored mine

/-! ## The course of a change -/

/-- A run, cut where the call of a number writes a change of a user and where
it removes the tokens of the user after that. -/
structure ChangeCourse (service : Service) (start : System) (number : Nat) (userId : UserId)
    (events : List Event) where
  before : List Event
  writing : Ending
  between : List Event
  removing : Ending
  after : List Event
  update : UserUpdate
  told : events = before ++ .proceed number writing :: (between ++ .proceed number removing :: after)
  writes : (start.run service before).request? (.proceed number writing) =
    some (.credentials (.updateUser userId update))
  removes : (start.run service (before ++ .proceed number writing :: between)).request?
    (.proceed number removing) = some (.tokens (.deleteByUser userId))

namespace ChangeCourse

variable {service : Service} {start : System} {number : Nat} {userId : UserId} {events : List Event}

/-- The course of a longer run. -/
def more (course : ChangeCourse service start number userId events) (event : Event) :
    ChangeCourse service start number userId (events ++ [event]) :=
  { course with
    after := course.after ++ [event]
    told := by
      conv_lhs => rw [course.told]
      simp only [List.append_assoc, List.cons_append] }

/-- The system when the change is written. -/
def written (course : ChangeCourse service start number userId events) : System :=
  start.run service (course.before ++ [.proceed number course.writing])

/-- The system when the tokens are removed. -/
def removed (course : ChangeCourse service start number userId events) : System :=
  course.written.run service (course.between ++ [.proceed number course.removing])

theorem number_lt (course : ChangeCourse service start number userId events) :
    number < (start.run service course.before).processes.length := by
  rcases Option.bind_eq_some_iff.mp course.writes with ⟨process, moves, _⟩
  exact (List.getElem?_eq_some_iff.mp moves).1

theorem run_removed (course : ChangeCourse service start number userId events) :
    course.removed.run service course.after = start.run service events := by
  conv_rhs => rw [course.told]
  simp only [removed, written, System.run, List.foldl_append, List.foldl_cons, List.foldl_nil]

end ChangeCourse

/-- A change has come to its stage by its two store calls. -/
structure Came (service : Service) (start : System) (past : List Event) (number : Nat) (userId : UserId)
    (stage : Entry) : Prop where
  written : forall user, stage = .written user ->
    ∃ update, start.Asks service past number (.credentials (.updateUser userId update))
  changed : forall user, stage = .changed user -> Nonempty (ChangeCourse service start number userId past)

namespace Came

variable {service : Service} {start : System} {past : List Event} {number : Nat} {userId : UserId}
  {stage : Entry} (came : Came service start past number userId stage)

include came

theorem more (event : Event) : Came service start (past ++ [event]) number userId stage := by
  refine ⟨fun user at' => ?_, fun user at' => ?_⟩
  · rcases came.written user at' with ⟨update, asks⟩
    exact ⟨update, asks.more event⟩
  · rcases came.changed user at' with ⟨course⟩
    exact ⟨course.more event⟩

theorem replied {ending : Ending} {request : StoreCall}
    (requested : (start.run service past).request? (.proceed number ending) = some request)
    {change : ProfileChange} (allowed : (ServiceCall.updateUser userId change).enters stage request)
    (reply : Option (Except Error request.Reply)) :
    Came service start (past ++ [.proceed number ending]) number userId (stage.replied request reply) := by
  refine ⟨fun user at' => ?_, fun user at' => ?_⟩
  · rcases Entry.written_of_replied at' with old | ⟨rfl, other, update, rfl⟩
    · exact (came.more _).written user old
    · rcases allowed with looks | ⟨_, same⟩
      · exact False.elim looks
      · cases same
        exact ⟨update, past, ending, [], rfl, requested⟩
  · rcases Entry.changed_of_replied at' with old | ⟨written, other, rfl⟩
    · exact (came.more _).changed user old
    · rcases came.written user written with ⟨update, before, writing, between, rfl, writes⟩
      subst written
      cases allowed
      refine ⟨⟨before, writing, between, ending, [], update, ?_, writes, requested⟩⟩
      rw [List.append_assoc, List.cons_append]

end Came

/-- All changes have come to their stages by their store calls. -/
def Coming (service : Service) (start : System) (past : List Event)
    (standings : List (ServiceCall × Entry)) : Prop :=
  forall (number : Nat) (call : ServiceCall) (stage : Entry), standings[number]? = some (call, stage) ->
    forall userId change, call = .updateUser userId change -> Came service start past number userId stage

theorem Coming.kept {service : Service} {start : System} {past : List Event} {event : Event}
    {standings later : List (ServiceCall × Entry)} {world : World}
    (move : service.entries.Move (start.run service past) event standings world later)
    (coming : Coming service start past standings) : Coming service start (past ++ [event]) later := by
  refine move.each (fun number call stage => forall userId change, call = .updateUser userId change ->
    Came service start past number userId stage) _ ?_ ?_ ?_ ?_ coming
  · exact fun _ _ _ _ _ _ => ⟨nofun, nofun⟩
  · exact fun number call stage came userId change changes => (came userId change changes).more event
  · rintro number _ stage bytes after drew came userId change rfl
    cases (show after = stage from drew)
    exact (came userId change rfl).more event
  · rintro number _ stage request ending rfl requested allowed _ came userId change rfl
    exact (came userId change rfl).replied requested allowed _

/-- A change of the password that was answered with success has made its two store calls. -/
theorem exists_changeCourse {service : Service} {world : World} {events : List Event} {number : Nat}
    {userId : UserId} {change : ProfileChange} {user : User}
    (changed : ((System.start world).run service events).processes[number]? =
      some ⟨.updateUser userId change, .done (.ok user)⟩) (password : change.password.isSome = true) :
    Nonempty (ChangeCourse service (System.start world) number userId events) := by
  have always : (System.start world).Throughout service (fun _ _ => True) events :=
    System.throughout_of_forall_mem fun _ _ => trivial
  have nobody : service.entries.Tracks (System.start world).processes [] := Tracking.tracks_nil
  have unstarted : Coming service (System.start world) [] [] := fun _ _ _ stands => by cases stands
  rcases nobody.run (Coming service (System.start world)) (fun _ _ _ _ _ _ move coming => coming.kept move)
    always unstarted with ⟨standings, tracks, coming⟩
  rcases tracks.stands changed with ⟨stage, stands, fits⟩
  exact (coming number _ stage stands userId change rfl).changed user (fits password)

/-- Once the tokens of a user are removed, none are stored. -/
theorem Restored.start {service : Service} {userId : UserId} {system : System} {event : Event} {world : World}
    {standings later : List (ServiceCall × Entry)} (smooth : event.IsSmooth)
    (removes : system.request? event = some (.tokens (.deleteByUser userId)))
    (move : service.entries.Move system event standings world later) (removed : System) :
    Restored service userId removed [] world later := by
  rcases move.called_of_request? removes with ⟨before, call, stage, after, ending, rfl, _, _, rfl, _⟩
  cases smooth
  intro digest record stored mine
  rw [World.record?_endCall] at stored
  have spared := (Option.filter_eq_some_iff.mp stored).2
  rw [mine, beq_self_eq_true] at spared
  cases spared

/-- Wherever calls stand, logins have looked up the users that they have found. -/
theorem exists_arriving (service : Service) {world : World} (filed : world.stores.credentials.IsFiled)
    (events : List Event) :
    ∃ standings, service.entries.Tracks ((System.start world).run service events).processes standings ∧
      Arriving service (System.start world) events standings ∧
      ((System.start world).run service events).world.stores.credentials.IsFiled := by
  have nobody : service.entries.Tracks (System.start world).processes [] := Tracking.tracks_nil
  have unstarted : Arriving service (System.start world) [] [] := fun _ _ _ stands => by cases stands
  have always : (System.start world).Throughout service (fun _ _ => True) events :=
    System.throughout_of_forall_mem fun _ _ => trivial
  refine nobody.run (fun past standings => Arriving service (System.start world) past standings ∧
    ((System.start world).run service past).world.stores.credentials.IsFiled) ?_ always ⟨unstarted, filed⟩
  rintro past event _ later _ _ move ⟨arriving, filed⟩
  refine ⟨arriving.kept move, ?_⟩
  rw [System.run_append]
  exact move.credentials CredentialStore.IsFiled (fun _ now call filed => filed.answer now call) filed

namespace ChangeCourse

variable {service : Service} {world : World} {events : List Event} {number : Nat} {userId : UserId}
  {change : ProfileChange} (course : ChangeCourse service (System.start world) number userId events)

/-- A login looked its user up before the change was written. -/
def Overtook (other : Nat) (call : ServiceCall) : Prop :=
  ∀ request ∈ call.lookup?, (System.start world).Asks service course.before other request

variable (filed : world.stores.credentials.IsFiled) (smooth : ∀ event ∈ events, event.IsSmooth)
  (calls : forall other process, ((System.start world).run service events).processes[other]? = some process ->
    process.call.isLogin = true ∨ other = number ∧ process.call = .updateUser userId change)

include calls

/-- What is called by the time of the change is known from the end. -/
theorem calls_before {other : Nat} {process : Process}
    (found : ((System.start world).run service course.before).processes[other]? = some process) :
    process.call.isLogin = true ∨ other = number ∧ process.call = .updateUser userId change := by
  rcases System.exists_process_run service found (.proceed number course.writing ::
    (course.between ++ .proceed number course.removing :: course.after)) with ⟨rest, there⟩
  rw [← System.run_append, ← course.told] at there
  exact calls other ⟨process.call, rest⟩ there

include smooth in
/-- After the change is written, no store call fails and only logins begin. -/
theorem conditions_after {event : Event}
    (member : event ∈ course.between ++ .proceed number course.removing :: course.after) :
    event.IsSmooth ∧ ∀ call ∈ event.begun?, call.isLogin = true := by
  have listed : event ∈ events := by
    rw [course.told]
    exact List.mem_append_right _ (List.mem_cons_of_mem _ member)
  refine ⟨smooth event listed, fun call begins => ?_⟩
  rcases System.exists_process_of_begun service ((System.start world).run service course.before)
    (List.mem_cons_of_mem (.proceed number course.writing) member) begins with ⟨other, rest, late, found⟩
  rw [← System.run_append, ← course.told] at found
  refine (calls other _ found).resolve_right fun changer => ?_
  have inside := course.number_lt
  omega

include filed

theorem exists_guarded_written : ∃ standings, service.entries.Tracks course.written.processes standings ∧
    course.written.world.stores.credentials.IsFiled ∧
    Guarded service course.written.world.stores.credentials course.Overtook course.written.world standings := by
  rcases exists_arriving service filed course.before with ⟨early, tracks, arriving, filed⟩
  rcases Tracking.tracks_step tracks (.proceed number course.writing) with ⟨standings, move, tracked⟩
  have guarded := Guarded.start course.writes move (fun other call stage stands => by
    rcases tracks.getElem? stands with ⟨rest, found, _⟩
    exact course.calls_before calls found) arriving
  have filed := move.credentials CredentialStore.IsFiled (fun _ now call filed => filed.answer now call) filed
  rw [written, System.run_append]
  exact ⟨standings, tracked, filed, guarded⟩

include smooth

theorem exists_guarded_removed : ∃ standings, service.entries.Tracks course.removed.processes standings ∧
    Guarded service course.written.world.stores.credentials course.Overtook course.removed.world standings ∧
    Restored service userId course.removed [] course.removed.world standings := by
  rcases course.exists_guarded_written filed calls with ⟨_, tracks, filed, guarded⟩
  have always : course.written.Throughout service
      (fun _ event => ∀ call ∈ event.begun?, call.isLogin = true) course.between :=
    System.throughout_of_forall_mem fun event member =>
      (course.conditions_after smooth calls (List.mem_append_left _ member)).2
  rcases tracks.run (fun past standings => Guarded service course.written.world.stores.credentials
      course.Overtook (course.written.run service past).world standings)
    (fun past event _ later begins _ move guarded => by
      rw [System.run_append]
      exact guarded.kept filed begins move) always guarded with ⟨standings, tracks, guarded⟩
  rcases Tracking.tracks_step tracks (.proceed number course.removing) with ⟨later, move, tracks⟩
  have conditions := course.conditions_after smooth calls List.mem_append_cons_self
  have removes := course.removes
  rw [List.append_cons, System.run_append] at removes
  have restored := Restored.start conditions.1 removes move course.removed
  have kept := guarded.kept filed conditions.2 move
  have reached : (course.written.run service course.between).step service (.proceed number course.removing) =
      course.removed := by
    rw [removed, System.run_append]
    rfl
  rw [reached] at tracks kept restored
  exact ⟨later, tracks, kept, restored⟩

/-- At the end, the tokens of the user are those that logins have stored since
they were removed, and no call has a user left to change. -/
theorem exists_guarded_final : ∃ standings,
    service.entries.Tracks ((System.start world).run service events).processes standings ∧
    Guarded service course.written.world.stores.credentials course.Overtook
      ((System.start world).run service events).world standings ∧
    Restored service userId course.removed course.after
      ((System.start world).run service events).world standings := by
  rcases course.exists_guarded_written filed calls with ⟨_, _, written, _⟩
  rcases course.exists_guarded_removed filed smooth calls with ⟨_, tracks, guarded, restored⟩
  have always : course.removed.Throughout service (fun _ event => event.IsSmooth ∧
      ∀ call ∈ event.begun?, call.isLogin = true) course.after :=
    System.throughout_of_forall_mem fun event member =>
      course.conditions_after smooth calls (List.mem_append_right _ (List.mem_cons_of_mem _ member))
  rcases tracks.run (fun past standings => Guarded service course.written.world.stores.credentials
        course.Overtook (course.removed.run service past).world standings ∧
      Restored service userId course.removed past (course.removed.run service past).world standings)
    (fun past event _ later meets _ move holds => by
      rw [System.run_append]
      exact ⟨holds.1.kept written meets.2 move, holds.2.kept meets.1 move holds.1⟩) always ⟨guarded, restored⟩
    with ⟨standings, tracks, guarded, restored⟩
  rw [course.run_removed] at tracks guarded restored
  exact ⟨standings, tracks, guarded, restored⟩

end ChangeCourse

/-- Once a change of the password is answered with success, every refresh token
that is stored for the user was handed out by a login that has stored it after
the tokens of the user were removed, and that has either checked its password
against the new hash or looked the user up before the new hash was written.
All other calls are logins, of any users, and have come between at any store
call, and no store call has failed. -/
theorem sessions_after_password_change (service : Service) (world : World) (events : List Event) (number : Nat)
    (userId : UserId) (change : ProfileChange) (user : User) (final : System)
    (filed : world.stores.credentials.IsFiled) (ran : (System.start world).run service events = final)
    (smooth : ∀ event ∈ events, event.IsSmooth)
    (changed : final.processes[number]? = some ⟨.updateUser userId change, .done (.ok user)⟩)
    (password : change.password.isSome = true)
    (logins : forall other process, final.processes[other]? = some process -> other ≠ number ->
      process.call.isLogin = true ∧ process.isFinished = true) :
    final.world.stores.credentials.users[userId]? = some user ∧
      ∃ course : ChangeCourse service (System.start world) number userId events,
        forall digest record, final.world.record? digest = some record -> record.userId = userId ->
          ∃ other email password appId session,
            final.processes[other]? = some ⟨.login email password appId, .done (.ok session)⟩ ∧
            service.tokenDigest session.refreshToken = digest ∧
            (∃ token, token.digest = digest ∧
              course.removed.Asks service course.after other (.tokens (.create token))) ∧
            (Password.verify service.primitives password user.passwordHash = true ∨
              (System.start world).Asks service course.before other (.credentials (.findUserByEmail email))) := by
  subst ran
  rcases exists_changeCourse changed password with ⟨course⟩
  have calls (other : Nat) (process : Process)
      (found : ((System.start world).run service events).processes[other]? = some process) :
      process.call.isLogin = true ∨ other = number ∧ process.call = .updateUser userId change := by
    by_cases same : other = number
    · subst same
      cases changed.symm.trans found
      exact .inr ⟨rfl, rfl⟩
    · exact .inl (logins other process found same).1
  rcases course.exists_guarded_final filed smooth calls with ⟨standings, tracks, guarded, restored⟩
  have current : ((System.start world).run service events).world.stores.credentials.users[userId]? = some user := by
    rcases tracks.stands changed with ⟨stage, stands, fits⟩
    rw [guarded.same]
    exact (guarded.entrants number _ stage stands).written userId change rfl user (by rw [fits password]; rfl)
  refine ⟨current, course, fun digest record stored mine => ?_⟩
  rcases restored digest record stored mine with ⟨other, call, found, token, stands, rfl, owner, asks⟩
  have entrant := guarded.entrants other call _ stands
  rcases entrant.checked token rfl with ⟨email, password, appId, _, rfl, same, owned, verified⟩
  cases same
  rcases tracks.getElem? stands with ⟨rest, there, follows⟩
  have another : other ≠ number := by
    rintro rfl
    cases there.symm.trans changed
  obtain ⟨answer, rfl⟩ : ∃ answer, rest = .done answer := by
    rcases Option.isSome_iff_exists.mp (logins other _ there another).2 with ⟨answer, answered⟩
    exact ⟨answer, rest.eq_done_of_result? answer answered⟩
  cases answer with
  | error error => exact False.elim follows
  | ok session =>
    rcases follows with ⟨_, _, opened, given⟩
    cases opened
    refine ⟨other, email, password, appId, session, there, given.symm, ⟨token, rfl, asks⟩, ?_⟩
    refine (entrant.found found rfl).elim (fun early => .inr (early _ rfl)) fun recorded => .inl ?_
    rw [← owned, owner, ← guarded.same] at recorded
    cases current.symm.trans recorded
    exact verified

namespace Sample

def newPassword : ProfileChange :=
  ⟨none, some "battery staple", none⟩

/-- The user logs in and gets a new password before the login has stored its token. -/
def overtaken : List Event :=
  .begin (.login email password 1) :: List.replicate 6 (.proceed 0 .carriedOut) ++
    .begin (.updateUser 1 newPassword) :: List.replicate 3 (.proceed 1 .carriedOut) ++ [.proceed 0 .carriedOut]

/-- The end of the login and of the change. -/
def changed : System := (System.start world).run service overtaken

end Sample

/-- What is left of the login is told by the theorem. -/
theorem sessions_after_password_change_of_overtaken :
    Sample.world.stores.credentials.IsFiled ∧
      (∀ event ∈ Sample.overtaken, event.IsSmooth) ∧
      Sample.newPassword.password.isSome = true ∧
      (forall other process, Sample.changed.processes[other]? = some process -> other ≠ 1 ->
        process.call.isLogin = true ∧ process.isFinished = true) ∧
      ∃ user, Sample.changed.processes[1]? = some ⟨.updateUser 1 Sample.newPassword, .done (.ok user)⟩ ∧
        Sample.changed.world.stores.credentials.users[(1 : UserId)]? = some user ∧
        ∃ course : ChangeCourse Sample.service (System.start Sample.world) 1 1 Sample.overtaken,
          forall digest record, Sample.changed.world.record? digest = some record -> record.userId = 1 ->
            ∃ other email password appId session,
              Sample.changed.processes[other]? = some ⟨.login email password appId, .done (.ok session)⟩ ∧
              Sample.service.tokenDigest session.refreshToken = digest ∧
              (∃ token, token.digest = digest ∧
                course.removed.Asks Sample.service course.after other (.tokens (.create token))) ∧
              (Password.verify Sample.service.primitives password user.passwordHash = true ∨
                (System.start Sample.world).Asks Sample.service course.before other
                  (.credentials (.findUserByEmail email))) := by
  have observed : (∀ event ∈ Sample.overtaken, event.IsSmooth) ∧ Sample.changed.verdicts =
      [(.login Sample.email Sample.password 1, some true), (.updateUser 1 Sample.newPassword, some true)] := by
    decide +kernel
  rcases observed with ⟨smooth, verdicts⟩
  have logins (other : Nat) (process : Process) (found : Sample.changed.processes[other]? = some process)
      (another : other ≠ 1) : process.call.isLogin = true ∧ process.isFinished = true := by
    have shown : Sample.changed.verdicts[other]? = some (process.call, process.answer?.map Except.isOk) := by
      rw [System.getElem?_verdicts, found]
      rfl
    rw [verdicts] at shown
    match other with
    | 0 =>
      rcases Prod.mk.inj (Option.some.inj shown) with ⟨called, answered⟩
      refine ⟨by rw [← called]; rfl, ?_⟩
      rcases Option.map_eq_some_iff.mp answered.symm with ⟨answer, given, _⟩
      exact Option.isSome_iff_exists.mpr ⟨answer, given⟩
    | 1 => exact absurd rfl another
  rcases System.exists_answer (congrArg (·[1]?) verdicts) with ⟨_ | user, found, verdict⟩
  · cases verdict
  · exact ⟨Sample.isFiled, smooth, rfl, logins, user, found,
      sessions_after_password_change Sample.service Sample.world Sample.overtaken 1 1 Sample.newPassword user
        Sample.changed Sample.isFiled rfl smooth found rfl logins⟩

/-- A login and a change of the password have succeeded, and the token of the
login is stored, although its password is not the new one. -/
theorem old_session_after_password_change :
    (∀ event ∈ Sample.overtaken, event.IsSmooth) ∧
      Sample.changed.verdicts = [(.login Sample.email Sample.password 1, some true),
        (.updateUser 1 Sample.newPassword, some true)] ∧
      Sample.newPassword.password.isSome = true ∧
      (∃ record ∈ Sample.changed.world.record? (Sample.service.tokenDigest Sample.token), record.userId = 1) ∧
      ∃ user ∈ Sample.changed.world.stores.credentials.users[(1 : UserId)]?,
        Password.verify Sample.service.primitives Sample.password user.passwordHash = false := by
  decide +kernel

end SingleSignOn

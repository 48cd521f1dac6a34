import SingleSignOn.Json.Shape

namespace SingleSignOn

/-!
# Two shapes over one input

A payload is read more than once, each time with another shape.  What one
shape accepts in detail another may pass over, since whatever was accepted
is complete; and an array can have the length of one shape only.
-/

theorem bind_eq_ok_iff {Fault α β : Type} {first : Except Fault α} {second : α -> Except Fault β}
    {result : β} :
    first >>= second = .ok result ↔ ∃ value, first = .ok value ∧ second value = .ok result := by
  cases first with
  | error fault =>
    refine ⟨fun impossible => ?_, fun ⟨_, impossible, _⟩ => ?_⟩
    · cases impossible
    · cases impossible
  | ok value =>
    refine ⟨fun same => ⟨value, rfl, same⟩, fun ⟨_, same, rest⟩ => ?_⟩
    cases same
    exact rest

/-- A way to compare outcomes whose failures cannot be compared. -/
theorem eq_ok_of_toOption {Fault α : Type} {outcome : Except Fault α} {value : α}
    (same : outcome.toOption = some value) : outcome = .ok value := by
  cases outcome with
  | error fault => cases same
  | ok found => exact congrArg Except.ok (Option.some.inj same)

theorem map_eq_ok_iff {Fault α β : Type} {first : Except Fault α} {change : α -> β} {result : β} :
    first.map change = .ok result ↔ ∃ value, first = .ok value ∧ change value = result := by
  cases first with
  | error fault =>
    refine ⟨fun impossible => ?_, fun ⟨_, impossible, _⟩ => ?_⟩
    · cases impossible
    · cases impossible
  | ok value =>
    refine ⟨fun same => ⟨value, rfl, Except.ok.inj same⟩, fun ⟨_, same, changed⟩ => ?_⟩
    cases same
    rw [← changed]
    rfl

namespace Json

/-! ## What is accepted is complete -/

/-- A reader takes only complete values. -/
def TakesIntact {α : Type} (read : Parsed -> Except Fault α) : Prop :=
  forall value result, read value = .ok result -> value.isIntact = true

theorem takesIntact_asInt64 : TakesIntact Parsed.asInt64 := by
  intro value result read
  cases value <;> first | rfl | cases read

theorem takesIntact_asText : TakesIntact Parsed.asText := by
  intro value result read
  cases value <;> first | rfl | cases read

theorem takesIntact_asBoolean : TakesIntact Parsed.asBoolean := by
  intro value result read
  cases value <;> first | rfl | cases read

theorem takesIntact_skipped : TakesIntact skipped := by
  intro value result passed
  unfold skipped at passed
  split at passed
  · next intact => exact intact
  · cases passed

theorem takesIntact_required {α : Type} {read : Parsed -> Except Fault α} (takes : TakesIntact read)
    (name : String) : TakesIntact (Field.required name read).accepts := by
  intro value result accepted
  rcases map_eq_ok_iff.mp accepted with ⟨found, same, _⟩
  exact takes value found same

theorem takesIntact_defaulted {α : Type} {read : Parsed -> Except Fault α}
    (takes : TakesIntact read) (name : String) : TakesIntact (Field.defaulted name read).accepts :=
  takesIntact_required takes name

theorem takesIntact_nullable {α : Type} {read : Parsed -> Except Fault α} (takes : TakesIntact read)
    (name : String) : TakesIntact (Field.nullable name read).accepts := by
  intro value result accepted
  rcases map_eq_ok_iff.mp accepted with ⟨found, same, _⟩
  unfold Parsed.asOptional at same
  split at same
  · rfl
  · rcases map_eq_ok_iff.mp same with ⟨inner, read, _⟩
    exact takes value inner read

/-! ## Arrays -/

/-- The number of items of an array, as far as it goes. -/
def Items.count : Items -> Nat
  | .broken => 0
  | .closed => 0
  | .next _ tail => tail.count + 1

/-- An array has no more items than the shape has fields, and the fields that
it leaves out may be left out. -/
theorem count_of_checkItems {fields : List Field} {items : Items}
    (checked : Shape.checkItems fields items = .ok ()) :
    items.count ≤ fields.length ∧ ∀ field ∈ fields.drop items.count, field.optionalInArray = true := by
  fun_induction Shape.checkItems fields items with
  | case1 fields => cases checked
  | case2 => exact ⟨Nat.le_refl 0, nofun⟩
  | case3 head tail => cases checked
  | case4 field fields optional hypothesis =>
    refine ⟨Nat.zero_le _, fun other member => ?_⟩
    rcases List.mem_cons.mp member with rfl | later
    · exact optional
    · exact (hypothesis checked).2 other later
  | case5 field fields needed => cases checked
  | case6 field fields head tail hypothesis =>
    rcases bind_eq_ok_iff.mp checked with ⟨_, _, rest⟩
    exact ⟨Nat.succ_le_succ (hypothesis rest).1, (hypothesis rest).2⟩

/-! ## Objects -/

/-- A shape that reads some of the fields of another, all of which it can do
without, and passes over the others. -/
structure Shape.Narrows (narrow wide : Shape) : Prop where
  fields : forall name field, narrow.fields.find? (fun field => field.name == name) = some field ->
    wide.fields.find? (fun field => field.name == name) = some field
  optional : ∀ field ∈ narrow.fields, field.optionalInObject = true
  others : narrow.others = skipped
  takes : ∀ field ∈ wide.fields, TakesIntact field.accepts
  skips : TakesIntact wide.others

namespace Shape.Narrows

variable {narrow wide : Shape} {name : String} {key : Bytes} {value : Parsed} {tail : Members}
  {less : List String}

/-- A member that the narrower shape does not read is passed over. -/
theorem checkMembers_skip (narrows : narrow.Narrows wide) (read : decode? key = some name)
    (absent : narrow.fields.find? (fun field => field.name == name) = none)
    (intact : value.isIntact = true) (rest : narrow.checkMembers less tail = .ok ()) :
    narrow.checkMembers less (.next key value tail) = .ok () := by
  simp only [checkMembers, read, absent, narrows.others, skipped, intact, if_true]
  exact rest

theorem checkMembers_field {field : Field} (read : decode? key = some name)
    (found : narrow.fields.find? (fun field => field.name == name) = some field)
    (once : less.contains name = false) (accepted : field.accepts value = .ok ())
    (rest : narrow.checkMembers (name :: less) tail = .ok ()) :
    narrow.checkMembers less (.next key value tail) = .ok () := by
  simp only [checkMembers, read, found, once, accepted, Bool.false_eq_true, if_false]
  exact rest

/-- What a shape accepts as an object, a narrower one accepts. -/
theorem checkMembers_ok (narrows : narrow.Narrows wide) {members : Members} {seen : List String}
    (fewer : forall name, less.contains name = true -> seen.contains name = true)
    (checked : wide.checkMembers seen members = .ok ()) :
    narrow.checkMembers less members = .ok () := by
  fun_induction Shape.checkMembers wide seen members generalizing less with
  | case1 seen => cases checked
  | case2 seen complete =>
    refine if_pos (List.all_eq_true.mpr fun field member => ?_)
    rw [narrows.optional field member, Bool.true_or]
  | case3 seen missing => cases checked
  | case4 seen key value tail unreadable => cases checked
  | case5 seen key value tail name read absent hypothesis =>
    rcases bind_eq_ok_iff.mp checked with ⟨_, passed, rest⟩
    refine narrows.checkMembers_skip read ?_ (narrows.skips value _ passed) (hypothesis fewer rest)
    cases found : narrow.fields.find? fun field => field.name == name with
    | none => rfl
    | some field => exact absurd ((narrows.fields name field found).symm.trans absent) nofun
  | case6 seen key value tail name read field found twice => cases checked
  | case7 seen key value tail name read field found once hypothesis =>
    rcases bind_eq_ok_iff.mp checked with ⟨_, accepted, rest⟩
    cases mine : narrow.fields.find? fun field => field.name == name with
    | none =>
      have intact := narrows.takes field (List.mem_of_find?_eq_some found) value _ accepted
      refine narrows.checkMembers_skip read mine intact (hypothesis (fun other known => ?_) rest)
      rw [List.contains_cons, fewer other known, Bool.or_true]
    | some own =>
      cases (narrows.fields name own mine).symm.trans found
      refine checkMembers_field read mine ?_ accepted (hypothesis (fun other known => ?_) rest)
      · exact Bool.eq_false_iff.mpr fun known => once (fewer name known)
      · rw [List.contains_cons, Bool.or_eq_true] at known ⊢
        exact known.imp_right (fewer other)

end Shape.Narrows

end Json

end SingleSignOn

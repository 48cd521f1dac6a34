import Mathlib.Data.List.Nodup
import SingleSignOn.Proofs.Json.Shapes
import SingleSignOn.Settings.Basic

namespace SingleSignOn

/-!
# What settings can be

A value is judged where it is read, on the command line or from the
environment, and by the kind of the option that it is for.  So every value of
a set that was read is one that its option admits.  The defaults are not read,
but they are admitted as well, and what is made of the values lies between the
bounds of the options.
-/

namespace Decimal

theorem le_of_readUpTo? {limit : Nat} {text : List Char} {number : Nat}
    (read : readUpTo? limit text = some number) : number ≤ limit :=
  of_decide_eq_true (Option.filter_eq_some_iff.mp read).2

theorem bounds_of_readBetween? {lower upper : Int} {text : List Char} {number : Int}
    (read : readBetween? lower upper text = some number) : lower ≤ number ∧ number ≤ upper :=
  of_decide_eq_true (Option.filter_eq_some_iff.mp read).2

end Decimal

namespace CommandLine

/-- The values that an option of a kind may have. -/
def Kind.Admits : Kind -> Value -> Prop
  | .text, .text _ => True
  | .word choices, .text value => choices.contains value = true
  | .signed lower upper, .number value => lower ≤ value ∧ value ≤ upper
  | .unsigned lower upper, .number value => (lower : Int) ≤ value ∧ value ≤ upper
  | _, _ => False

instance (kind : Kind) (value : Value) : Decidable (kind.Admits value) := by
  cases kind <;> cases value <;> unfold Kind.Admits <;> infer_instance

/-- What is read for an option is admitted by it. -/
theorem Kind.admits_of_read {kind : Kind} {given : String} {value : Value}
    (read : kind.read given = .ok value) : kind.Admits value := by
  cases kind with
  | text =>
    cases read
    trivial
  | signed lower upper =>
    simp only [Kind.read] at read
    split at read
    · next number found =>
      cases read
      exact Decimal.bounds_of_readBetween? found
    · cases read
  | unsigned lower upper =>
    simp only [Kind.read] at read
    split at read
    · next number found =>
      split at read
      · next enough =>
        cases read
        have limited := Decimal.le_of_readUpTo? found
        constructor
        · exact Int.ofNat_le.mpr enough
        · exact Int.ofNat_le.mpr limited
      · cases read
    · cases read
  | word choices =>
    simp only [Kind.read] at read
    split at read
    · next chosen =>
      cases read
      exact chosen
    · cases read

/-- Every value stands under the name of an option that admits it. -/
def Admitted (settings : List Setting) (given : Given) : Prop :=
  forall name value, (name, value) ∈ given ->
    ∃ setting, setting ∈ settings ∧ setting.name = name ∧ setting.kind.Admits value

/-- How far a command line was read, with values that are admitted. -/
structure Progress.IsAdmitted (settings : List Setting) (progress : Progress) : Prop where
  given : Admitted settings progress.given
  /-- What is not settled yet is one of the options. -/
  unsettled : forall setting text, progress.unsettled = some (setting, text) -> setting ∈ settings

section

variable {settings : List Setting}

theorem Admitted.read {given : Given} (admitted : Admitted settings given) {setting : Setting}
    (known : setting ∈ settings) {text : String} {value : Value} (read : setting.kind.read text = .ok value) :
    Admitted settings ((setting.name, value) :: given) := by
  intro name other member
  rcases List.mem_cons.mp member with same | earlier
  · cases same
    exact ⟨setting, known, rfl, Kind.admits_of_read read⟩
  · exact admitted name other earlier

namespace Progress.IsAdmitted

variable {progress after : Progress} (admitted : progress.IsAdmitted settings)

include admitted

theorem assign {setting : Setting} (known : setting ∈ settings) {text : String}
    (assigned : progress.assign setting text = .ok after) : after.IsAdmitted settings := by
  unfold Progress.assign at assigned
  split at assigned
  · cases assigned
  rcases bind_eq_ok_iff.mp assigned with ⟨value, read, same⟩
  cases same
  constructor
  · exact admitted.given.read known read
  · intro setting text unsettled
    cases unsettled

theorem settle (settled : progress.settle = .ok after) : after.IsAdmitted settings := by
  unfold Progress.settle at settled
  split at settled
  · next setting text unsettled => exact admitted.assign (admitted.unsettled setting _ unsettled) settled
  · cases settled
  · cases settled
    exact admitted

theorem readWord {word : Word} (read : readWord settings progress word = .ok after) :
    after.IsAdmitted settings := by
  cases word with
  | separator =>
    cases read
    exact admitted
  | long name attached =>
    simp only [CommandLine.readWord] at read
    split at read
    · next setting found =>
      have known := List.mem_of_find?_eq_some found
      rcases bind_eq_ok_iff.mp read with ⟨between, settled, read⟩
      have kept := admitted.settle settled
      cases attached with
      | some value => exact kept.assign known read
      | none =>
        cases read
        constructor
        · exact kept.given
        · intro other text unsettled
          cases unsettled
          exact known
    · -- A word that asks for help or the version is never read with success.
      split at read
      · split at read
        · cases read
        · rcases bind_eq_ok_iff.mp read with ⟨_, _, impossible⟩
          cases impossible
      · cases read
  | short letters =>
    simp only [CommandLine.readWord] at read
    split at read
    · rcases bind_eq_ok_iff.mp read with ⟨_, _, impossible⟩
      cases impossible
    · rcases bind_eq_ok_iff.mp read with ⟨_, _, impossible⟩
      cases impossible
    · cases read
  | plain text =>
    simp only [CommandLine.readWord] at read
    split at read
    · next setting unsettled =>
      cases read
      constructor
      · exact admitted.given
      · intro other given same
        cases same
        exact admitted.unsettled setting none unsettled
    · cases read

end Progress.IsAdmitted

theorem Progress.IsAdmitted.readWords {progress after : Progress} {words : List String}
    (admitted : progress.IsAdmitted settings) (read : readWords settings progress words = .ok after) :
    after.IsAdmitted settings := by
  induction words generalizing progress with
  | nil => exact admitted.settle read
  | cons word words hypothesis =>
    rcases bind_eq_ok_iff.mp read with ⟨between, first, rest⟩
    have kept := admitted.readWord first
    split at rest
    · split at rest
      · exact kept.settle rest
      · cases rest
    · exact hypothesis kept rest

/-- The environment is looked through for options of the list alone. -/
theorem Admitted.readEnvironment {environment : String -> Option String} {given later : Given}
    {remaining : List Setting} (known : forall setting, setting ∈ remaining -> setting ∈ settings)
    (admitted : Admitted settings given)
    (read : readEnvironment environment given remaining = .ok later) : Admitted settings later := by
  induction remaining generalizing given with
  | nil =>
    cases read
    exact admitted
  | cons setting remaining hypothesis =>
    have others : forall other, other ∈ remaining -> other ∈ settings :=
      fun other member => known other (List.mem_cons_of_mem setting member)
    simp only [CommandLine.readEnvironment] at read
    split at read
    · rcases bind_eq_ok_iff.mp read with ⟨value, judged, rest⟩
      exact hypothesis others (admitted.read (known setting List.mem_cons_self) judged) rest
    · exact hypothesis others admitted read

/-- Whatever is read, from the command line or the environment, is admitted by its option. -/
theorem admitted_of_read {words : List String} {environment : String -> Option String} {given : Given}
    (read : read settings words environment = .ok given) : Admitted settings given := by
  have start : Progress.IsAdmitted settings ⟨[], none⟩ := by
    constructor
    · intro name value member
      cases member
    · intro setting text unsettled
      cases unsettled
  rcases bind_eq_ok_iff.mp read with ⟨progress, fromWords, rest⟩
  rcases bind_eq_ok_iff.mp rest with ⟨complete, fromEnvironment, rest⟩
  dsimp only at rest
  split at rest
  · cases rest
    exact Admitted.readEnvironment (fun _ member => member) (start.readWords fromWords).given fromEnvironment
  · cases rest

end

end CommandLine

namespace Settings

open CommandLine

/-- Every default passes the check of its own option. -/
theorem admits_fallback : ∀ setting ∈ options, ∀ value ∈ setting.fallback, setting.kind.Admits value := by
  decide

/-- No two options have one name. -/
theorem names_nodup : (options.map Setting.name).Nodup := by
  decide

theorem eq_of_name_eq {first second : Setting} (known : first ∈ options) (other : second ∈ options)
    (same : first.name = second.name) : first = second :=
  List.inj_on_of_nodup_map names_nodup known other same

/-- What an option comes to, given or by default, is admitted by it. -/
theorem admits_of_valueOf? {given : Given} (admitted : Admitted options given) {setting : Setting}
    (known : setting ∈ options) {value : Value} (found : valueOf? given setting.name = some value) :
    setting.kind.Admits value := by
  unfold valueOf? at found
  split at found
  · next read =>
    cases found
    rcases List.lookup_eq_some_iff.mp read with ⟨before, after, split, _⟩
    have member : (setting.name, value) ∈ given := by
      rw [split]
      exact List.mem_append_right before List.mem_cons_self
    rcases admitted setting.name value member with ⟨other, listed, same, admits⟩
    rw [eq_of_name_eq known listed same.symm]
    exact admits
  · rcases Option.bind_eq_some_iff.mp found with ⟨other, first, fallback⟩
    have listed := List.mem_of_find?_eq_some first
    have same : other.name = setting.name := by simpa using List.find?_some first
    rw [eq_of_name_eq known listed same.symm]
    exact admits_fallback other listed value fallback

/-- An option with a default has a value. -/
theorem exists_valueOf? (given : Given) {setting : Setting} (known : setting ∈ options)
    (defaulted : setting.fallback.isSome = true) : ∃ value, valueOf? given setting.name = some value := by
  unfold valueOf?
  split
  · next value _ => exact ⟨value, rfl⟩
  · cases first : options.find? fun other => other.name == setting.name with
    | none =>
      have absent := List.find?_eq_none.mp first setting known
      exact absurd (beq_self_eq_true setting.name) absent
    | some other =>
      have same : other.name = setting.name := by simpa using List.find?_some first
      rw [← eq_of_name_eq known (List.mem_of_find?_eq_some first) same.symm]
      exact Option.isSome_iff_exists.mp defaulted

section

variable {given : Given} (admitted : Admitted options given) {setting : Setting} (known : setting ∈ options)
  (defaulted : setting.fallback.isSome = true)

include admitted known defaulted

theorem integerOf_of_signed {lower upper : Int} (kind : setting.kind = .signed lower upper) :
    lower ≤ integerOf given setting.name ∧ integerOf given setting.name ≤ upper := by
  rcases exists_valueOf? given known defaulted with ⟨value, found⟩
  have admits := admits_of_valueOf? admitted known found
  rw [kind] at admits
  unfold integerOf
  rw [found]
  cases value with
  | text written => cases admits
  | number integer => exact admits

theorem numberOf_of_unsigned {lower upper : Nat} (kind : setting.kind = .unsigned lower upper) :
    lower ≤ numberOf given setting.name ∧ numberOf given setting.name ≤ upper := by
  rcases exists_valueOf? given known defaulted with ⟨value, found⟩
  have admits := admits_of_valueOf? admitted known found
  rw [kind] at admits
  unfold numberOf integerOf
  rw [found]
  cases value with
  | text written => cases admits
  | number integer =>
    rcases admits with ⟨enough, limited⟩
    dsimp only
    omega

end

/-- A lifetime that settings may have: an access token lives for one second at
least and one year at most, a refresh token for one day at least and ten years
at most. -/
structure LifetimesInBounds (auth : AuthSettings) : Prop where
  access : 1 ≤ auth.accessTokenLifetime ∧ auth.accessTokenLifetime ≤ 31536000
  refresh : 1 ≤ auth.refreshTokenDays ∧ auth.refreshTokenDays ≤ 3650

theorem lifetimesInBounds_of_read {words : List String} {environment : String -> Option String}
    {settings : Settings} (read : Settings.read words environment = .ok settings) :
    LifetimesInBounds settings.auth := by
  rcases map_eq_ok_iff.mp read with ⟨given, accepted, made⟩
  have admitted := admitted_of_read accepted
  rw [← made]
  constructor
  · have known : options[10] ∈ options := List.getElem_mem (by decide)
    exact numberOf_of_unsigned admitted known rfl rfl
  · have known : options[11] ∈ options := List.getElem_mem (by decide)
    exact integerOf_of_signed admitted known rfl rfl

end Settings

end SingleSignOn

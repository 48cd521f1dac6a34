import SingleSignOn.Service.Basic

namespace SingleSignOn

/-!
# Programs that keep to a discipline

What a program may still do depends on what it has done and learned so far.
A stage stands for that past.  A discipline says which store calls are
allowed at a stage, how a reply moves the program to another stage, and which
stages a draw of random bytes may lead to.

`Program.Follows` folds a discipline over a program: every call is allowed
where it is made, whatever the replies, the clock and the random bytes are,
and the result fits the stage in which the program ends.  Programs need not
be looked at again after that.  Whatever runs them, alone or among others,
sees only moves of the discipline.
-/

/-- The moves of a program between stages. -/
structure Discipline (Stage : Type) where
  /-- The store calls that may be made at a stage. -/
  allows : Stage -> StoreCall -> Prop
  /-- The stages at which the clock may be read. -/
  looks : Stage -> Prop
  /-- The stage after a reply, or after the program gave the call up. -/
  replied : Stage -> (request : StoreCall) -> Option (Except Error request.Reply) -> Stage
  /-- The stages that may follow a draw of random bytes. -/
  drew : Stage -> Bytes -> Stage -> Prop

namespace Program

variable {Stage α β : Type}

/-- A program keeps to a discipline from a stage on, and its result fits the
stage that it ends in. -/
def Follows (discipline : Discipline Stage) : Program α -> (Stage -> α -> Prop) -> Stage -> Prop
  | .done result, fits, stage => fits stage result
  | .call _ request next, fits, stage =>
    discipline.allows stage request ∧
      forall reply, (next reply).Follows discipline fits (discipline.replied stage request reply)
  | .clock next, fits, stage => discipline.looks stage ∧ forall now, (next now).Follows discipline fits stage
  | .draw _ next, fits, stage =>
    forall bytes, ∃ after, discipline.drew stage bytes after ∧
      (next bytes).Follows discipline fits after

theorem follows_bind (discipline : Discipline Stage) (program : Program α)
    (continuation : α -> Program β) (fits : Stage -> β -> Prop) (stage : Stage) :
    (program.bind continuation).Follows discipline fits stage ↔
      program.Follows discipline
        (fun after result => (continuation result).Follows discipline fits after) stage := by
  induction program generalizing stage with
  | done result => rfl
  | call patience request next hypothesis => simp only [bind, Follows, hypothesis]
  | clock next hypothesis => simp only [bind, Follows, hypothesis]
  | draw count next hypothesis => simp only [bind, Follows, hypothesis]

theorem Follows.mono {discipline : Discipline Stage} {program : Program α} {strong weak : Stage -> α -> Prop}
    {stage : Stage} (follows : program.Follows discipline strong stage)
    (weaker : forall after result, strong after result -> weak after result) :
    program.Follows discipline weak stage := by
  induction program generalizing stage with
  | done result => exact weaker stage result follows
  | call patience request next hypothesis => exact ⟨follows.1, fun reply => hypothesis reply (follows.2 reply)⟩
  | clock next hypothesis => exact ⟨follows.1, fun now => hypothesis now (follows.2 now)⟩
  | draw count next hypothesis =>
    intro bytes
    rcases follows bytes with ⟨after, drew, goesOn⟩
    exact ⟨after, drew, hypothesis bytes goesOn⟩

/-- Where everything is allowed and nothing leads out, a program may be any. -/
theorem follows_of_closed {discipline : Discipline Stage} (closed : Stage -> Prop)
    {fits : Stage -> α -> Prop}
    (allows : forall stage request, closed stage -> discipline.allows stage request)
    (looks : forall stage, closed stage -> discipline.looks stage)
    (replied : forall stage request reply, closed stage -> closed (discipline.replied stage request reply))
    (drew : forall stage bytes, closed stage -> discipline.drew stage bytes stage)
    (ends : forall stage result, closed stage -> fits stage result) (program : Program α) {stage : Stage}
    (inside : closed stage) : program.Follows discipline fits stage := by
  induction program generalizing stage with
  | done result => exact ends stage result inside
  | call patience request next hypothesis =>
    exact ⟨allows stage request inside, fun reply => hypothesis reply (replied stage request reply inside)⟩
  | clock next hypothesis => exact ⟨looks stage inside, fun now => hypothesis now inside⟩
  | draw count next hypothesis =>
    exact fun bytes => ⟨stage, drew stage bytes inside, hypothesis bytes inside⟩

end Program

namespace Operation

variable {Stage α β : Type}

/-- An operation keeps to a discipline from a stage on.  Its value fits the
stage that it ends in, and so does its failure. -/
def Follows (discipline : Discipline Stage) (operation : Operation α) (success : Stage -> α -> Prop)
    (failure : Stage -> Error -> Prop) (stage : Stage) : Prop :=
  Program.Follows discipline operation.run (fun after result =>
    match result with
    | .ok value => success after value
    | .error error => failure after error) stage

variable (discipline : Discipline Stage) (success : Stage -> α -> Prop) (failure : Stage -> Error -> Prop)
  (stage : Stage)

theorem follows_run (operation : Operation α) (fits : Stage -> Except Error α -> Prop) :
    Program.Follows discipline operation.run fits stage ↔
      Follows discipline operation (fun after value => fits after (.ok value))
        (fun after error => fits after (.error error)) stage := by
  refine iff_of_eq (congrArg (fun fits => Program.Follows discipline operation.run fits stage) ?_)
  funext after result
  cases result with
  | ok value => rfl
  | error error => rfl

theorem follows_pure (value : α) :
    Follows discipline (pure value) success failure stage ↔ success stage value :=
  Iff.rfl

theorem follows_bind (operation : Operation β) (continuation : β -> Operation α) :
    Follows discipline (operation >>= continuation) success failure stage ↔
      Follows discipline operation
        (fun after value => Follows discipline (continuation value) success failure after) failure stage := by
  refine (Program.follows_bind discipline operation.run (ExceptT.bindCont continuation) _ stage).trans
    (iff_of_eq (congrArg (fun fits => Program.Follows discipline operation.run fits stage) ?_))
  funext after result
  cases result with
  | ok value => rfl
  | error error => rfl

theorem follows_call (patience : Nat) (request : StoreCall)
    (success : Stage -> request.Reply -> Prop) :
    Follows discipline (Operation.call patience request) success failure stage ↔
      discipline.allows stage request ∧
        (forall value, success (discipline.replied stage request (some (.ok value))) value) ∧
        (forall error, failure (discipline.replied stage request (some (.error error))) error) ∧
        failure (discipline.replied stage request none) .timeout := by
  refine and_congr_right fun _ => ⟨fun every => ?_, ?_⟩
  · exact ⟨fun value => every (some (.ok value)), fun error => every (some (.error error)),
      every none⟩
  · rintro ⟨answered, failed, late⟩ reply
    match reply with
    | some (.ok value) => exact answered value
    | some (.error error) => exact failed error
    | none => exact late

theorem follows_attempt (patience : Nat) (request : StoreCall)
    (success : Stage -> Except Error request.Reply -> Prop) :
    Follows discipline (Operation.attempt patience request) success failure stage ↔
      discipline.allows stage request ∧
        (forall answer, success (discipline.replied stage request (some answer)) answer) ∧
        success (discipline.replied stage request none) (.error .timeout) := by
  refine and_congr_right fun _ => ⟨fun every => ?_, ?_⟩
  · exact ⟨fun answer => every (some answer), every none⟩
  · rintro ⟨answered, late⟩ reply
    match reply with
    | some answer => exact answered answer
    | none => exact late

theorem follows_now (success : Stage -> Instant -> Prop) :
    Follows discipline (ofProgram Program.now) success failure stage ↔
      discipline.looks stage ∧ forall now, success stage now :=
  Iff.rfl

theorem follows_result (result : Except Error α) :
    Follows discipline (ExceptT.mk (pure result)) success failure stage ↔
      (forall value, result = .ok value -> success stage value) ∧
        (forall error, result = .error error -> failure stage error) := by
  cases result with
  | ok value =>
    refine ⟨fun good => ⟨fun other same => ?_, fun error impossible => ?_⟩,
      fun both => both.1 value rfl⟩
    · cases same
      exact good
    · cases impossible
  | error error =>
    refine ⟨fun failed => ⟨fun value impossible => ?_, fun other same => ?_⟩,
      fun both => both.2 error rfl⟩
    · cases impossible
    · cases same
      exact failed

theorem follows_orFail (error : Error) (found : Option α) :
    Follows discipline (orFail error found) success failure stage ↔
      (forall value, found = some value -> success stage value) ∧
      (found = none -> failure stage error) := by
  cases found with
  | none =>
    refine ⟨fun failed => ⟨fun value impossible => ?_, fun _ => failed⟩, fun both => both.2 rfl⟩
    cases impossible
  | some value =>
    refine ⟨fun good => ⟨fun other same => ?_, fun impossible => ?_⟩, fun both => both.1 value rfl⟩
    · cases same
      exact good
    · cases impossible

end Operation

/-! ## Programs that make only calls of one kind -/

namespace Program

variable {α β : Type} {allowed : StoreCall -> Prop}

/-- Every store call of a program is of a kind, whatever it meets on its way. -/
def CallsOnly (allowed : StoreCall -> Prop) : Program α -> Prop
  | .done _ => True
  | .call _ request next => allowed request ∧ forall reply, (next reply).CallsOnly allowed
  | .clock next => forall now, (next now).CallsOnly allowed
  | .draw _ next => forall bytes, (next bytes).CallsOnly allowed

theorem CallsOnly.mono {wider : StoreCall -> Prop}
    (implies : forall request, allowed request -> wider request) {program : Program α}
    (only : program.CallsOnly allowed) : program.CallsOnly wider := by
  induction program with
  | done result => trivial
  | call patience request next hypothesis =>
    exact ⟨implies request only.1, fun reply => hypothesis reply (only.2 reply)⟩
  | clock next hypothesis => exact fun now => hypothesis now (only now)
  | draw count next hypothesis => exact fun bytes => hypothesis bytes (only bytes)

theorem callsOnly_true (program : Program α) : program.CallsOnly fun _ => True := by
  induction program with
  | done result => trivial
  | call patience request next hypothesis => exact ⟨trivial, hypothesis⟩
  | clock next hypothesis => exact hypothesis
  | draw count next hypothesis => exact hypothesis

theorem CallsOnly.bind {program : Program α} {continuation : α -> Program β}
    (first : program.CallsOnly allowed)
    (second : forall result, (continuation result).CallsOnly allowed) :
    (program.bind continuation).CallsOnly allowed := by
  induction program with
  | done result => exact second result
  | call patience request next hypothesis =>
    exact ⟨first.1, fun reply => hypothesis reply (first.2 reply)⟩
  | clock next hypothesis => exact fun now => hypothesis now (first now)
  | draw count next hypothesis => exact fun bytes => hypothesis bytes (first bytes)

end Program

namespace Operation

variable {α β : Type} {allowed : StoreCall -> Prop}

/-- Every store call of an operation is of a kind. -/
def CallsOnly (allowed : StoreCall -> Prop) (operation : Operation α) : Prop :=
  operation.run.CallsOnly allowed

theorem CallsOnly.bind {operation : Operation α} {continuation : α -> Operation β}
    (first : CallsOnly allowed operation)
    (second : forall value, CallsOnly allowed (continuation value)) :
    CallsOnly allowed (operation >>= continuation) := by
  show (operation.run.bind (ExceptT.bindCont continuation)).CallsOnly allowed
  refine Program.CallsOnly.bind first fun result => ?_
  cases result with
  | ok value => exact second value
  | error error => trivial

theorem callsOnly_call (patience : Nat) {request : StoreCall} (kind : allowed request) :
    CallsOnly allowed (Operation.call patience request) := by
  refine ⟨kind, fun reply => ?_⟩
  cases reply with
  | none => trivial
  | some answer => trivial

theorem callsOnly_ofProgram {program : Program α} (only : program.CallsOnly allowed) :
    CallsOnly allowed (ofProgram program) :=
  Program.CallsOnly.bind only fun _ => trivial

theorem callsOnly_orFail (error : Error) (found : Option α) :
    CallsOnly allowed (orFail error found) := by
  cases found with
  | none => trivial
  | some value => trivial

end Operation

end SingleSignOn

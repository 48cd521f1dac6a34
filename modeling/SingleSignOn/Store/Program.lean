import SingleSignOn.Bytes
import SingleSignOn.Store.Call

namespace SingleSignOn

/-!
# Programs over the stores

An operation of the service is a program: it calls the stores, reads the
clock and draws random bytes, and otherwise computes.  It does not say what
answers its calls.  `execute` runs it against any answering side: stores in
memory, a database, or a side that fails, delays and counts calls.  Because
a program is data, two programs can also be run step by step, in any order
of their calls.

A caller says how long it waits for a call.  If the time runs out, the
program goes on without an answer; that is the `none` of `call`.
-/

/-- A program that ends with a result. -/
inductive Program (α : Type) : Type where
  | done (result : α)
  /-- Calls a store and waits for so many milliseconds, or for ever. -/
  | call (patience : Option Nat) (request : StoreCall)
      (next : Option (Except Error request.Reply) -> Program α)
  /-- Reads the clock. -/
  | clock (next : Instant -> Program α)
  /-- Draws fresh random bytes. -/
  | draw (count : Nat) (next : Bytes -> Program α)

namespace Program

/-- Goes on with a second program that uses the result of the first. -/
def bind {α β : Type} : Program α -> (α -> Program β) -> Program β
  | done result, continuation => continuation result
  | call patience request next, continuation =>
    call patience request fun answer => (next answer).bind continuation
  | clock next, continuation => clock fun now => (next now).bind continuation
  | draw count next, continuation => draw count fun bytes => (next bytes).bind continuation

instance : Monad Program where
  pure := done
  bind := bind

/-- The present instant. -/
def now : Program Instant :=
  clock done

/-- So many fresh random bytes. -/
def fresh (count : Nat) : Program Bytes :=
  draw count done

/-- Calls a store with limited patience.  A call that takes too long has failed. -/
def bounded (patience : Nat) (request : StoreCall) : Program (Except Error request.Reply) :=
  call (some patience) request fun
    | some answer => done answer
    | none => done (.error .timeout)

/-- Calls a store and waits for ever. -/
def unbounded (request : StoreCall) : Program (Except Error request.Reply) :=
  call none request fun
    | some answer => done answer
    | none => done (.error .timeout)

/-- Runs a program against an answering side, a clock and a source of random bytes. -/
def execute {m : Type -> Type} [Monad m]
    (answer : Option Nat -> (request : StoreCall) -> m (Option (Except Error request.Reply)))
    (clockOf : m Instant) (bytesOf : Nat -> m Bytes) {α : Type} : Program α -> m α
  | done result => pure result
  | call patience request next => do
    let reply ← answer patience request
    execute answer clockOf bytesOf (next reply)
  | clock next => do
    let instant ← clockOf
    execute answer clockOf bytesOf (next instant)
  | draw count next => do
    let bytes ← bytesOf count
    execute answer clockOf bytesOf (next bytes)

theorem bind_done {α : Type} (program : Program α) : program.bind done = program := by
  induction program with
  | done result => rfl
  | call patience request next hypothesis => simp only [bind, hypothesis]
  | clock next hypothesis => simp only [bind, hypothesis]
  | draw count next hypothesis => simp only [bind, hypothesis]

theorem bind_assoc {α β γ : Type} (program : Program α) (second : α -> Program β)
    (third : β -> Program γ) :
    (program.bind second).bind third = program.bind fun result => (second result).bind third := by
  induction program with
  | done result => rfl
  | call patience request next hypothesis => simp only [bind, hypothesis]
  | clock next hypothesis => simp only [bind, hypothesis]
  | draw count next hypothesis => simp only [bind, hypothesis]

instance : LawfulMonad Program :=
  LawfulMonad.mk' Program bind_done (fun _ _ => rfl) bind_assoc

end Program

/-- An operation of the service: a program that may fail with an error. -/
abbrev Operation (α : Type) := ExceptT Error Program α

namespace Operation

/-- Runs a program that cannot fail. -/
def ofProgram {α : Type} (program : Program α) : Operation α :=
  ExceptT.lift program

/-- A store call whose failure is the failure of the operation. -/
def call (patience : Nat) (request : StoreCall) : Operation request.Reply :=
  ExceptT.mk (Program.bounded patience request)

/-- A store call whose failure the operation looks at itself. -/
def attempt (patience : Nat) (request : StoreCall) : Operation (Except Error request.Reply) :=
  ofProgram (Program.bounded patience request)

/-- A result that may have been absent, which is a failure of its own kind. -/
def orFail {α : Type} (error : Error) : Option α -> Operation α
  | some value => pure value
  | none => throw error

end Operation

end SingleSignOn

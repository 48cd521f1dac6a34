import SingleSignOn.Proofs.Program.Running
import SingleSignOn.Proofs.Store.Redaction

namespace SingleSignOn

/-!
# Programs in parallel

Two programs are parallel if they make the same calls for as long as the
replies are the same but for secrets.  Run over states and under mishaps that
are the same but for secrets, they come to results of which something holds,
and to states that again are the same but for secrets.
-/

/-- The mishaps without what the database says. -/
def Mishaps.redacted (mishaps : Mishaps) : Mishaps :=
  fun number => (mishaps number).map Fault.redacted

/-- Mishaps that are the same but for what the database says end a call the same but for that. -/
theorem Mishaps.ending_redacted {mishaps others : Mishaps} (faults : mishaps.redacted = others.redacted)
    (patience : Option Nat) (number : Nat) :
    (Course.under patience (mishaps number)).ending.redacted =
      (Course.under patience (others number)).ending.redacted := by
  rw [← Course.under_redacted, ← Course.under_redacted]
  exact congrArg (fun fault => (Course.under patience fault).ending) (congrFun faults number)

/-- The worlds of two passages are the same but for secrets, and as many store calls were made. -/
structure Passage.Matches (passage other : Passage) : Prop where
  worlds : passage.world.redacted = other.world.redacted
  count : passage.calls.length = other.calls.length

namespace Passage.Matches

variable {mishaps others : Mishaps} {passage other : Passage}

theorem now (alike : passage.Matches other) : passage.world.now = other.world.now := by
  have same := congrArg World.now alike.worlds
  exact same

/-- The same bytes are drawn. -/
theorem drawBytes (alike : passage.Matches other) (count : Nat) :
    (passage.world.drawBytes count).1 = (other.world.drawBytes count).1 ∧
      Matches ⟨(passage.world.drawBytes count).2, passage.calls⟩ ⟨(other.world.drawBytes count).2, other.calls⟩ := by
  have same := congrArg (fun world => World.drawBytes world count) alike.worlds
  have bytes := congrArg Prod.fst same
  have worlds := congrArg Prod.snd same
  exact ⟨bytes, worlds, alike.count⟩

/-- The next call is answered the same but for secrets. -/
theorem answer (alike : passage.Matches other) (faults : mishaps.redacted = others.redacted)
    (patience : Option Nat) (request : StoreCall) :
    (passage.answer mishaps patience request).1.map (redactResult request.redact) =
        (other.answer others patience request).1.map (redactResult request.redact) ∧
      (passage.answer mishaps patience request).2.Matches (other.answer others patience request).2 := by
  have endings := Mishaps.ending_redacted faults patience passage.calls.length
  have ended := World.endCall_alike alike.worlds request endings
  rw [alike.count] at ended
  unfold Passage.answer
  rw [alike.count]
  have replies := congrArg Prod.fst ended
  have worlds := congrArg Prod.snd ended
  exact ⟨replies, worlds, congrArg Nat.succ alike.count⟩

end Passage.Matches

namespace Program

variable {α β γ δ : Type}

/-- Two programs make the same calls, whatever the secrets in the replies are,
and something holds of their results. -/
inductive Parallel (post : α -> β -> Prop) : Program α -> Program β -> Prop
  | done {result : α} {found : β} (holds : post result found) : Parallel post (.done result) (.done found)
  | call (patience : Option Nat) (request : StoreCall) {next : Option (Except Error request.Reply) -> Program α}
      {sequel : Option (Except Error request.Reply) -> Program β}
      (each : forall reply other,
        reply.map (redactResult request.redact) = other.map (redactResult request.redact) ->
        Parallel post (next reply) (sequel other)) :
      Parallel post (.call patience request next) (.call patience request sequel)
  | clock {next : Instant -> Program α} {sequel : Instant -> Program β}
      (each : forall now, Parallel post (next now) (sequel now)) : Parallel post (.clock next) (.clock sequel)
  | draw (count : Nat) {next : Bytes -> Program α} {sequel : Bytes -> Program β}
      (each : forall bytes, Parallel post (next bytes) (sequel bytes)) :
      Parallel post (.draw count next) (.draw count sequel)

namespace Parallel

variable {post : α -> β -> Prop} {first : Program α} {second : Program β}

theorem bind {further : γ -> δ -> Prop} {continuation : α -> Program γ} {sequel : β -> Program δ}
    (parallel : Parallel post first second)
    (rest : forall result found, post result found -> Parallel further (continuation result) (sequel found)) :
    Parallel further (first.bind continuation) (second.bind sequel) := by
  induction parallel with
  | done holds => exact rest _ _ holds
  | call patience request each hypothesis => exact .call patience request fun _ _ same => hypothesis _ _ same
  | clock each hypothesis => exact .clock fun now => hypothesis now
  | draw count each hypothesis => exact .draw count fun bytes => hypothesis bytes

/-- What holds of the results of parallel programs holds of those of two runs. -/
theorem runUnder {mishaps others : Mishaps} {passage other : Passage} (parallel : Parallel post first second)
    (faults : mishaps.redacted = others.redacted) (alike : passage.Matches other) :
    post (first.runUnder mishaps passage).1 (second.runUnder others other).1 ∧
      (first.runUnder mishaps passage).2.Matches (second.runUnder others other).2 := by
  induction parallel generalizing passage other with
  | done holds => exact ⟨holds, alike⟩
  | call patience request each hypothesis =>
    rcases alike.answer faults patience request with ⟨replies, later⟩
    exact hypothesis _ _ replies later
  | @clock next sequel each hypothesis =>
    have reads : (Program.clock next).runUnder mishaps passage =
        (next passage.world.now).runUnder mishaps passage := rfl
    rw [reads, alike.now]
    exact hypothesis other.world.now alike
  | @draw count next sequel each hypothesis =>
    rcases alike.drawBytes count with ⟨bytes, later⟩
    have draws : (Program.draw count next).runUnder mishaps passage =
        (next (passage.world.drawBytes count).1).runUnder mishaps
          ⟨(passage.world.drawBytes count).2, passage.calls⟩ := rfl
    rw [draws, bytes]
    exact hypothesis (other.world.drawBytes count).1 later

end Parallel

end Program

/-! ## Programs that may fail -/

section

variable {ε φ α β γ δ : Type} {fails : ε -> ε -> Prop}

/-- Both programs have results of which something holds, or failures of which something holds. -/
def EndsAs (fails : ε -> ε -> Prop) (post : α -> β -> Prop) : Except ε α -> Except ε β -> Prop
  | .ok value, .ok found => post value found
  | .error error, .error failure => fails error failure
  | _, _ => False

/-- Two programs that may fail are parallel, and fail together if they do. -/
def TryParallel (fails : ε -> ε -> Prop) (post : α -> β -> Prop) (first : ExceptT ε Program α)
    (second : ExceptT ε Program β) : Prop :=
  Program.Parallel (EndsAs fails post) first.run second.run

theorem tryParallel_pure {post : α -> β -> Prop} {value : α} {found : β} (holds : post value found) :
    TryParallel fails post (pure value) (pure found) :=
  .done holds

theorem tryParallel_throw {post : α -> β -> Prop} {error failure : ε} (holds : fails error failure) :
    TryParallel fails post (throw error) (throw failure) :=
  .done holds

namespace TryParallel

variable {post : α -> β -> Prop} {first : ExceptT ε Program α} {second : ExceptT ε Program β}

theorem bind {further : γ -> δ -> Prop} {continuation : α -> ExceptT ε Program γ} {sequel : β -> ExceptT ε Program δ}
    (parallel : TryParallel fails post first second)
    (rest : forall value found, post value found -> TryParallel fails further (continuation value) (sequel found)) :
    TryParallel fails further (first >>= continuation) (second >>= sequel) :=
  Program.Parallel.bind parallel fun result answer ends =>
    match result, answer, ends with
    | .ok _, .ok _, holds => rest _ _ holds
    | .error _, .error _, holds => .done holds

/-- A failure may be told in other words. -/
theorem adapt {failsToo : φ -> φ -> Prop} (parallel : TryParallel fails post first second) (tell : ε -> φ)
    (told : forall error failure, fails error failure -> failsToo (tell error) (tell failure)) :
    TryParallel failsToo post (first.adapt tell) (second.adapt tell) :=
  Program.Parallel.bind parallel fun result answer ends =>
    match result, answer, ends with
    | .ok _, .ok _, holds => .done holds
    | .error _, .error _, holds => .done (told _ _ holds)

end TryParallel

theorem tryParallel_lift {post : α -> β -> Prop} {first : Program α} {second : Program β}
    (parallel : Program.Parallel post first second) :
    TryParallel fails post (ExceptT.lift first) (ExceptT.lift second) :=
  Program.Parallel.bind parallel fun _ _ holds => .done holds

end

/-! ## Operations of the service -/

namespace Operation

variable {α β γ : Type}

/-- Two operations are parallel, have results that are told the same, and fail
with the same error but for what the database says. -/
def Tells (tell : α -> γ) (first second : Operation α) : Prop :=
  TryParallel (fun error failure => error.redacted = failure.redacted)
    (fun value found => tell value = tell found) first second

theorem tells_pure {tell : α -> γ} {value found : α} (same : tell value = tell found) :
    Tells tell (pure value) (pure found) :=
  tryParallel_pure same

theorem tells_throw (tell : α -> γ) (error : Error) : Tells tell (throw error) (throw error) :=
  tryParallel_throw rfl

theorem Tells.bind {δ : Type} {tell : α -> γ} {report : β -> δ} {first second : Operation α}
    {continuation sequel : α -> Operation β} (tells : Tells tell first second)
    (rest : forall value found, tell value = tell found -> Tells report (continuation value) (sequel found)) :
    Tells report (first >>= continuation) (second >>= sequel) :=
  TryParallel.bind tells rest

/-- What runs a program that looks at no store. -/
theorem tells_ofProgram {tell : α -> γ} {program : Program α}
    (parallel : Program.Parallel (fun value found => tell value = tell found) program program) :
    Tells tell (ofProgram program) (ofProgram program) :=
  tryParallel_lift parallel

/-- Results of which the same remains are both results or both failures. -/
theorem endsAs_of_redactResult {redact : α -> γ} {result answer : Except Error α}
    (same : redactResult redact result = redactResult redact answer) :
    EndsAs (fun error failure => error.redacted = failure.redacted) (fun value found => redact value = redact found)
      result answer := by
  cases result <;> cases answer
  · exact Except.error.inj same
  · cases same
  · cases same
  · exact Except.ok.inj same

/-- A store call is told the same but for secrets. -/
theorem tells_call (patience : Nat) (request : StoreCall) :
    Tells request.redact (call patience request) (call patience request) := by
  refine .call _ request fun reply other same => ?_
  rcases reply with _ | reply <;> rcases other with _ | found
  · exact .done rfl
  · cases same
  · cases same
  · exact .done (endsAs_of_redactResult (Option.some.inj same))

/-- A result that may have been absent is absent in both or in neither. -/
theorem tells_orFail {tell : α -> γ} (error : Error) {value found : Option α} (same : value.map tell = found.map tell) :
    Tells tell (orFail error value) (orFail error found) := by
  cases value <;> cases found
  · exact tells_throw tell error
  · cases same
  · cases same
  · exact tells_pure (Option.some.inj same)

end Operation

end SingleSignOn

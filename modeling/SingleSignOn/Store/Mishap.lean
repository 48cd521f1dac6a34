import SingleSignOn.Store.Faults

namespace SingleSignOn

/-!
# Runs under given mishaps

A program makes its store calls one after another, so the calls of a run are
numbered from zero.  Mishaps say for each number what goes wrong with that
call.  Everything that can happen to a program that runs alone is a choice of
mishaps.
-/

/-- The fault that hits each call of a run, by its number. -/
abbrev Mishaps := Nat -> Option Fault

namespace Mishaps

/-- Nothing goes wrong. -/
def nothing : Mishaps :=
  fun _ => none

/-- The fault under which a call fails at once where its caller would have
given it up anyway. -/
def promptly (patience : Nat) : Fault -> Fault
  | .silence => .refusal .timeout
  | .delay milliseconds => if patience < milliseconds then .refusal .timeout else .delay milliseconds
  | .refusal error => .refusal error
  | .miscount => .miscount

end Mishaps

/-- A world, with the store calls of a run so far, the latest first. -/
structure Passage where
  world : World
  calls : List StoreCall

namespace Passage

/-- Answers the next call of a run. -/
def answer (mishaps : Mishaps) (passage : Passage) (patience : Option Nat) (request : StoreCall) :
    Option (Except Error request.Reply) × Passage :=
  let course := Course.under patience (mishaps passage.calls.length)
  let (reply, world) := passage.world.endCall request course.ending
  (reply, ⟨world, request :: passage.calls⟩)

end Passage

/-- Runs a program alone, under given mishaps. -/
def Program.runUnder {α : Type} (mishaps : Mishaps) (program : Program α) : StateM Passage α :=
  program.execute
    (fun patience request => do
      let (reply, after) := (← get).answer mishaps patience request
      set after
      return reply)
    (return (← get).world.now)
    (fun count => do
      let passage ← get
      let (bytes, world) := passage.world.drawBytes count
      set { passage with world := world }
      return bytes)

end SingleSignOn

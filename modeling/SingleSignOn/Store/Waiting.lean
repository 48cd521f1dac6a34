import SingleSignOn.Store.Mishap

namespace SingleSignOn

/-!
# Runs that wait

A store call takes its time, and the clock moves on while its caller waits.
A caller whose patience has run out goes on without an answer.  A caller who
waits for ever for a call that never ends does not go on at all, so a run may
have no end.

How far the clock moves in a millisecond is a parameter.  At a rate of zero
it stands still, and a run that ends is a run under mishaps.
-/

/-- Chosen calls fail at once where their caller would have given them up anyway. -/
def Mishaps.hastened (patience : Nat) (chosen : Nat -> Bool) (mishaps : Mishaps) : Mishaps :=
  fun number => if chosen number then (mishaps number).map (promptly patience) else mishaps number

namespace Passage

/-- The passage after so many milliseconds, each of which is `rate` nanoseconds of the clock. -/
def wait (rate : Nat) (passage : Passage) (milliseconds : Nat) : Passage :=
  let now : Instant := ⟨passage.world.now.nanoseconds + (rate * milliseconds : Nat)⟩
  { passage with world := { passage.world with now := now } }

/-- Waits for the next call of a run.  There is nothing after a wait for ever. -/
def await (rate : Nat) (mishaps : Mishaps) (passage : Passage) (patience : Option Nat) (request : StoreCall) :
    Option (Option (Except Error request.Reply) × Passage) :=
  match patience, mishaps passage.calls.length with
  | none, some .silence => none
  | patience, fault => some ((passage.wait rate (Course.under patience fault).wait).answer mishaps patience request)

end Passage

/-- Runs a program alone, under given mishaps and with a clock that moves on
while the program waits.  There is no result if the program waits for ever. -/
def Program.runWaiting {α : Type} (rate : Nat) (mishaps : Mishaps) (program : Program α) :
    StateT Passage Option α :=
  program.execute
    (fun patience request passage => passage.await rate mishaps patience request)
    (fun passage => some (passage.world.now, passage))
    (fun count passage =>
      let (bytes, world) := passage.world.drawBytes count
      some (bytes, { passage with world := world }))

end SingleSignOn

import SingleSignOn.Store.Program
import SingleSignOn.Store.RefreshTokens

namespace SingleSignOn

/-!
# Running a program over stores in memory

A world is all that a program can reach: the two stores, the clock, and a
source of random bytes from which nothing is drawn twice.
-/

/-- The two stores. -/
structure Stores where
  credentials : CredentialStore
  tokens : TokenStore

namespace Stores

/-- The stores without any record. -/
def empty : Stores := ⟨.empty, .empty⟩

/-- Answers a call at an instant. -/
def answer (stores : Stores) (now : Instant) : (call : StoreCall) -> Except Error call.Reply × Stores
  | .credentials call =>
    let (reply, after) := stores.credentials.answer now call
    (reply, { stores with credentials := after })
  | .tokens call =>
    let (reply, after) := stores.tokens.answer now call
    (reply, { stores with tokens := after })

end Stores

/-- The stores, the clock and the random bytes still to come. -/
structure World where
  stores : Stores
  now : Instant
  /-- The bytes of each draw, by its number and length. -/
  entropy : Nat -> Nat -> Bytes
  /-- The number of the next draw. -/
  draws : Nat

namespace World

/-- Carries a call out. -/
def answer (world : World) (call : StoreCall) : Except Error call.Reply × World :=
  let (reply, after) := world.stores.answer world.now call
  (reply, { world with stores := after })

/-- Draws random bytes. -/
def drawBytes (world : World) (count : Nat) : Bytes × World :=
  (world.entropy world.draws count, { world with draws := world.draws + 1 })

end World

/-- Runs a program from start to end with nothing else going on. -/
def Program.run {α : Type} (program : Program α) : StateM World α :=
  program.execute
    (fun _ call => do
      let (reply, after) := (← get).answer call
      set after
      return some reply)
    (return (← get).now)
    (fun count => do
      let (bytes, after) := (← get).drawBytes count
      set after
      return bytes)

end SingleSignOn

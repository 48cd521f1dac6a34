import SingleSignOn.Bytes
import SingleSignOn.Digest.Sha2

namespace SingleSignOn.Digest.Blake2b

/-!
# BLAKE2b without a key

The compression function works on sixteen words: the chaining value, and the
square-root constants with the byte counter and the mark of the last block
mixed in.  Each of the twelve rounds visits the message words in an order of
its own.
-/

/-- The order in which a round visits the message words. -/
def orders : List (List Nat) :=
  [[0, 1, 2, 3, 4, 5, 6, 7, 8, 9, 10, 11, 12, 13, 14, 15],
   [14, 10, 4, 8, 9, 15, 13, 6, 1, 12, 0, 2, 11, 7, 5, 3],
   [11, 8, 12, 0, 5, 2, 15, 13, 10, 14, 3, 6, 7, 1, 9, 4],
   [7, 9, 3, 1, 13, 12, 11, 14, 2, 6, 5, 10, 4, 0, 15, 8],
   [9, 0, 5, 7, 2, 4, 10, 15, 14, 1, 11, 12, 6, 8, 3, 13],
   [2, 12, 6, 10, 0, 11, 8, 3, 4, 13, 7, 5, 15, 14, 1, 9],
   [12, 5, 1, 15, 14, 13, 4, 10, 0, 7, 6, 3, 9, 2, 8, 11],
   [13, 11, 7, 14, 12, 1, 3, 9, 5, 0, 15, 4, 8, 6, 2, 10],
   [6, 15, 14, 9, 11, 3, 0, 8, 12, 2, 13, 7, 1, 4, 10, 5],
   [10, 2, 8, 4, 7, 6, 1, 5, 15, 11, 9, 14, 3, 12, 13, 0],
   [0, 1, 2, 3, 4, 5, 6, 7, 8, 9, 10, 11, 12, 13, 14, 15],
   [14, 10, 4, 8, 9, 15, 13, 6, 1, 12, 0, 2, 11, 7, 5, 3]]

/-- The positions that the eight mixings of a round work on: columns, then diagonals. -/
def quarters : List (Nat × Nat × Nat × Nat) :=
  [(0, 4, 8, 12), (1, 5, 9, 13), (2, 6, 10, 14), (3, 7, 11, 15),
   (0, 5, 10, 15), (1, 6, 11, 12), (2, 7, 8, 13), (3, 4, 9, 14)]

/-- Mixes two message words into four words of the state. -/
def mix (state : Array UInt64) (positions : Nat × Nat × Nat × Nat) (x y : UInt64) : Array UInt64 :=
  let (p, q, r, s) := positions
  let a := state.getD p 0 + state.getD q 0 + x
  let d := rotate64 (state.getD s 0 ^^^ a) 32
  let c := state.getD r 0 + d
  let b := rotate64 (state.getD q 0 ^^^ c) 24
  let a := a + b + y
  let d := rotate64 (d ^^^ a) 16
  let c := c + d
  let b := rotate64 (b ^^^ c) 63
  (((state.setIfInBounds p a).setIfInBounds q b).setIfInBounds r c).setIfInBounds s d

/-- One round with the message words in the given order. -/
def round (message state : Array UInt64) (order : List Nat) : Array UInt64 :=
  (quarters.zip (List.range 8)).foldl (fun state (quarter, index) =>
    mix state quarter (message.getD (order.getD (2 * index) 0) 0)
      (message.getD (order.getD (2 * index + 1) 0) 0)) state

/-- Compresses one block.  `counter` counts the message bytes up to its end. -/
def compress (chain : Array UInt64) (block : Bytes) (counter : Nat) (last : Bool) : Array UInt64 :=
  let message := ((List.range 16).map fun index =>
    (Bytes.toNatLE ((block.drop (8 * index)).take 8)).toUInt64).toArray
  let constants := (List.range 8).map fun index =>
    let word := squareRootWords.getD index 0
    if index = 4 then word ^^^ counter.toUInt64
    else if index = 5 then word ^^^ (counter >>> 64).toUInt64
    else if index = 6 ∧ last then ~~~word
    else word
  let mixed := orders.foldl (round message) (chain ++ constants.toArray)
  ((List.range 8).map fun index =>
    chain.getD index 0 ^^^ mixed.getD index 0 ^^^ mixed.getD (index + 8) 0).toArray

/-- Compresses so many full blocks, of which none is the last, and then what is left. -/
def absorb : Nat -> Nat -> Array UInt64 -> Bytes -> Array UInt64
  | 0, counter, chain, rest => compress chain rest (counter + rest.length) true
  | blocks + 1, counter, chain, bytes =>
    absorb blocks (counter + 128) (compress chain (bytes.take 128) (counter + 128) false) (bytes.drop 128)

/-- The digest of a message, of one to sixty-four bytes. -/
def hash (length : Nat) (message : Bytes) : Bytes :=
  let start := ((List.range 8).map fun index =>
    let word := squareRootWords.getD index 0
    if index = 0 then word ^^^ (0x01010000 + length).toUInt64 else word).toArray
  let chain := absorb ((message.length - 1) / 128) 0 start message
  (chain.toList.flatMap fun word => Bytes.ofNatLE 8 word.toNat).take length

end SingleSignOn.Digest.Blake2b

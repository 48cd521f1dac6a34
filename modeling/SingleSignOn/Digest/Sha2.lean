import SingleSignOn.Bytes
import SingleSignOn.Digest.Constants

namespace SingleSignOn.Digest

/-!
# SHA-256 and SHA-384

Both functions pad a message to whole blocks, expand each block of sixteen
words to a schedule, and mix the schedule into eight words of state.  They
differ in the width of a word, the rotation distances and the number of
rounds, which is all that `Rounds` records.

Stored refresh tokens are named by their SHA-256, access tokens are signed
with it through `hmacSha256`, and schema migrations are fingerprinted by
SHA-384.
-/

/-- The sizes and operations in which the two word widths differ. -/
structure Rounds (Word : Type) where
  bytesPerWord : Nat
  count : Nat
  constant : Nat -> Word
  ofNat : Nat -> Word
  toNat : Word -> Nat
  add : Word -> Word -> Word
  /-- The mixing of a word two places back in the schedule. -/
  scheduleLate : Word -> Word
  /-- The mixing of a word fifteen places back in the schedule. -/
  scheduleEarly : Word -> Word
  /-- The mixing of the fifth state word. -/
  stateLow : Word -> Word
  /-- The mixing of the first state word. -/
  stateHigh : Word -> Word
  /-- Bits of the second argument where the first has ones, of the third elsewhere. -/
  choose : Word -> Word -> Word -> Word
  /-- Bits that at least two of the arguments have. -/
  majority : Word -> Word -> Word -> Word

/-- The eight words that a block is mixed into. -/
structure Registers (Word : Type) where
  a : Word
  b : Word
  c : Word
  d : Word
  e : Word
  f : Word
  g : Word
  h : Word

namespace Rounds

variable {Word : Type}

/-- One round with its constant and schedule word. -/
def step (rounds : Rounds Word) (r : Registers Word) (constant word : Word) : Registers Word :=
  let mixed := rounds.add (rounds.add r.h (rounds.stateLow r.e))
    (rounds.add (rounds.choose r.e r.f r.g) (rounds.add constant word))
  let top := rounds.add mixed (rounds.add (rounds.stateHigh r.a) (rounds.majority r.a r.b r.c))
  ⟨top, r.a, r.b, r.c, rounds.add r.d mixed, r.e, r.f, r.g⟩

/-- The schedule of a block: its own words, then one more for each further round. -/
def schedule (rounds : Rounds Word) (block : Array Word) : Array Word :=
  (List.range (rounds.count - 16)).foldl (fun words offset =>
    let word := fun back => words.getD (16 + offset - back) (rounds.ofNat 0)
    words.push (rounds.add (rounds.add (rounds.scheduleLate (word 2)) (word 7))
      (rounds.add (rounds.scheduleEarly (word 15)) (word 16)))) block

/-- Mixes one block into the registers. -/
def compress (rounds : Rounds Word) (start : Registers Word) (block : Array Word) : Registers Word :=
  let words := rounds.schedule block
  let mixed := (List.range rounds.count).foldl (fun registers index =>
    rounds.step registers (rounds.constant index) (words.getD index (rounds.ofNat 0))) start
  ⟨rounds.add start.a mixed.a, rounds.add start.b mixed.b, rounds.add start.c mixed.c,
    rounds.add start.d mixed.d, rounds.add start.e mixed.e, rounds.add start.f mixed.f,
    rounds.add start.g mixed.g, rounds.add start.h mixed.h⟩

/-- The big-endian words of a byte string. -/
def wordsOf (rounds : Rounds Word) : Nat -> Bytes -> List Word
  | 0, _ => []
  | count + 1, bytes =>
    rounds.ofNat (Bytes.toNatBE (bytes.take rounds.bytesPerWord)) ::
      wordsOf rounds count (bytes.drop rounds.bytesPerWord)

/-- A one bit, zeros up to the last two words of a block, and the length in bits. -/
def padding (rounds : Rounds Word) (length : Nat) : Bytes :=
  let block := 16 * rounds.bytesPerWord
  let trailer := 2 * rounds.bytesPerWord
  let zeros := (block - (length + 1 + trailer) % block) % block
  0x80 :: List.replicate zeros 0 ++ Bytes.ofNatBE trailer (length * 8)

/-- Mixes so many blocks from the front of a byte string into the registers. -/
def absorb (rounds : Rounds Word) : Nat -> Registers Word -> Bytes -> Registers Word
  | 0, registers, _ => registers
  | count + 1, registers, bytes =>
    absorb rounds count (rounds.compress registers (rounds.wordsOf 16 bytes).toArray)
      (bytes.drop (16 * rounds.bytesPerWord))

/-- The registers after the whole padded message. -/
def finish (rounds : Rounds Word) (start : Registers Word) (message : Bytes) : List Word :=
  let padded := message ++ rounds.padding message.length
  let r := rounds.absorb (padded.length / (16 * rounds.bytesPerWord)) start padded
  [r.a, r.b, r.c, r.d, r.e, r.f, r.g, r.h]

end Rounds

/-- Rotation of a 32-bit word to the right, by less than its width. -/
def rotate32 (word : UInt32) (count : UInt32) : UInt32 :=
  (word >>> count) ||| (word <<< (32 - count))

/-- Rotation of a 64-bit word to the right, by less than its width. -/
def rotate64 (word : UInt64) (count : UInt64) : UInt64 :=
  (word >>> count) ||| (word <<< (64 - count))

/-- The rounds on 32-bit words. -/
def rounds32 : Rounds UInt32 where
  bytesPerWord := 4
  count := 64
  constant index := (cubeRootWords.getD index 0 >>> 32).toUInt32
  ofNat := Nat.toUInt32
  toNat := UInt32.toNat
  add := (· + ·)
  scheduleLate word := rotate32 word 17 ^^^ rotate32 word 19 ^^^ (word >>> 10)
  scheduleEarly word := rotate32 word 7 ^^^ rotate32 word 18 ^^^ (word >>> 3)
  stateLow word := rotate32 word 6 ^^^ rotate32 word 11 ^^^ rotate32 word 25
  stateHigh word := rotate32 word 2 ^^^ rotate32 word 13 ^^^ rotate32 word 22
  choose x y z := (x &&& y) ^^^ (~~~x &&& z)
  majority x y z := (x &&& y) ^^^ (x &&& z) ^^^ (y &&& z)

/-- The rounds on 64-bit words. -/
def rounds64 : Rounds UInt64 where
  bytesPerWord := 8
  count := 80
  constant index := cubeRootWords.getD index 0
  ofNat := Nat.toUInt64
  toNat := UInt64.toNat
  add := (· + ·)
  scheduleLate word := rotate64 word 19 ^^^ rotate64 word 61 ^^^ (word >>> 6)
  scheduleEarly word := rotate64 word 1 ^^^ rotate64 word 8 ^^^ (word >>> 7)
  stateLow word := rotate64 word 14 ^^^ rotate64 word 18 ^^^ rotate64 word 41
  stateHigh word := rotate64 word 28 ^^^ rotate64 word 34 ^^^ rotate64 word 39
  choose x y z := (x &&& y) ^^^ (~~~x &&& z)
  majority x y z := (x &&& y) ^^^ (x &&& z) ^^^ (y &&& z)

/-- The registers filled with eight words, starting at a position of the table. -/
def registersFrom {Word : Type} (word : Nat -> Word) (start : Nat) : Registers Word :=
  ⟨word start, word (start + 1), word (start + 2), word (start + 3),
    word (start + 4), word (start + 5), word (start + 6), word (start + 7)⟩

/-- SHA-256: thirty-two bytes. -/
def sha256 (message : Bytes) : Bytes :=
  (rounds32.finish (registersFrom (fun index => (squareRootWords.getD index 0 >>> 32).toUInt32) 0)
    message).flatMap fun word => Bytes.ofNatBE 4 word.toNat

/-- SHA-384: forty-eight bytes, the first six registers of the 64-bit rounds. -/
def sha384 (message : Bytes) : Bytes :=
  ((rounds64.finish (registersFrom (fun index => squareRootWords.getD index 0) 8)
    message).take 6).flatMap fun word => Bytes.ofNatBE 8 word.toNat

/-- HMAC over SHA-256.  A key longer than a block is replaced by its digest,
and every key is filled with zeros to a block. -/
def hmacSha256 (key message : Bytes) : Bytes :=
  let short := if key.length > 64 then sha256 key else key
  let block := short ++ List.replicate (64 - short.length) 0
  sha256 (Bytes.mask 0x5c block ++ sha256 (Bytes.mask 0x36 block ++ message))

end SingleSignOn.Digest

import SingleSignOn.Digest.Blake2b

namespace SingleSignOn.Digest.Argon2

/-!
# Argon2

A password is stretched by filling a memory of blocks of 128 words.  Memory
is divided into lanes, a lane into four slices; each block is made from the
one before it and from an earlier one.  Where the earlier block lies is read
from the memory itself, or computed from a counter, which distinguishes the
variants.  Later passes go over the memory again.
-/

/-- How the earlier block is chosen. -/
inductive Variant where
  /-- From the memory's content. -/
  | dependent
  /-- From a counter. -/
  | independent
  /-- From a counter in the first half of the first pass, then from content. -/
  | hybrid
  deriving DecidableEq, Repr

/-- Whether later passes add to a block or replace it. -/
inductive Version where
  /-- Version 16: they replace it. -/
  | replacing
  /-- Version 19: they add to it. -/
  | adding
  deriving DecidableEq, Repr

/-- Everything but the password that an output depends on. -/
structure Request where
  variant : Variant
  version : Version
  /-- Memory in blocks of one kibibyte. -/
  memory : Nat
  passes : Nat
  lanes : Nat
  salt : Bytes
  associated : Bytes
  length : Nat
  deriving DecidableEq, Repr

/-- The number by which a variant enters the first hash. -/
def Variant.number : Variant -> Nat
  | dependent => 0
  | independent => 1
  | hybrid => 2

/-- The number of a version. -/
def Version.number : Version -> Nat
  | replacing => 16
  | adding => 19

/-- A block of 128 words. -/
abbrev Block := Array UInt64

/-- The block of zeros. -/
def zeroBlock : Block := Array.replicate 128 0

/-- A byte string with its length in front. -/
def framed (bytes : Bytes) : Bytes :=
  Bytes.ofNatLE 4 bytes.length ++ bytes

/-- The chain of digests behind an output longer than one digest. -/
def longTail : Nat -> Nat -> Bytes -> Bytes
  | 0, rest, link => Blake2b.hash rest link
  | links + 1, rest, link => let next := Blake2b.hash 64 link; next.take 32 ++ longTail links rest next

/-- A digest of any length. -/
def stretch (length : Nat) (input : Bytes) : Bytes :=
  let headed := Bytes.ofNatLE 4 length ++ input
  if length ≤ 64 then Blake2b.hash length headed
  else
    let links := (length + 31) / 32 - 2
    let first := Blake2b.hash 64 headed
    first.take 32 ++ longTail (links - 1) (length - 32 * links) first

/-- The words of a block given as bytes. -/
def blockOfBytes (bytes : Bytes) : Block :=
  let packed := bytes.toArray
  ((List.range 128).map fun index =>
    (List.range 8).foldr (fun offset (word : UInt64) =>
      (word <<< 8) ||| (packed.getD (8 * index + offset) 0).toUInt64) 0).toArray

/-- The bytes of a block. -/
def bytesOfBlock (block : Block) : Bytes :=
  block.toList.flatMap fun word => Bytes.ofNatLE 8 word.toNat

/-- Wordwise exclusive or. -/
def xorBlocks (first second : Block) : Block :=
  first.zipWith (· ^^^ ·) second

/-- Addition with twice the product of the lower halves. -/
def addProduct (x y : UInt64) : UInt64 :=
  x + y + 2 * (x &&& 0xffffffff) * (y &&& 0xffffffff)

/-- Mixes four words of a block. -/
def mix (block : Block) (p q r s : Nat) : Block :=
  let a := addProduct (block.getD p 0) (block.getD q 0)
  let d := rotate64 (block.getD s 0 ^^^ a) 32
  let c := addProduct (block.getD r 0) d
  let b := rotate64 (block.getD q 0 ^^^ c) 24
  let a := addProduct a b
  let d := rotate64 (d ^^^ a) 16
  let c := addProduct c d
  let b := rotate64 (b ^^^ c) 63
  (((block.setIfInBounds p a).setIfInBounds q b).setIfInBounds r c).setIfInBounds s d

/-- Mixes sixteen words, found at the places that `place` gives them. -/
def permute (place : Nat -> Nat) (block : Block) : Block :=
  Blake2b.quarters.foldl (fun block (p, q, r, s) =>
    mix block (place p) (place q) (place r) (place s)) block

/-- Combines two blocks: their sum, mixed along its rows and then its columns,
added to the sum itself. -/
def combine (first second : Block) : Block :=
  let sum := xorBlocks first second
  let rows := (List.range 8).foldl (fun block row => permute (fun k => 16 * row + k) block) sum
  let columns := (List.range 8).foldl (fun block column =>
    permute (fun k => 2 * column + 16 * (k / 2) + k % 2) block) rows
  xorBlocks columns sum

/-- The sizes of a memory: blocks of a lane and of one of its four segments. -/
structure Layout where
  lanes : Nat
  laneLength : Nat
  segmentLength : Nat

/-- Memory is cut down to whole segments. -/
def layoutOf (request : Request) : Layout :=
  let segment := request.memory / (4 * request.lanes)
  ⟨request.lanes, 4 * segment, segment⟩

/-- A segment to be filled. -/
structure Segment where
  pass : Nat
  slice : Nat
  lane : Nat

/-- Whether a segment chooses its earlier blocks from a counter. -/
def usesCounter (request : Request) (segment : Segment) : Bool :=
  match request.variant with
  | .dependent => false
  | .independent => true
  | .hybrid => segment.pass = 0 && segment.slice < 2

/-- The numbers from which 128 positions of a segment choose their earlier block. -/
def counterBlock (request : Request) (layout : Layout) (segment : Segment) (counter : Nat) : Block :=
  let fields := [segment.pass, segment.lane, segment.slice, layout.lanes * layout.laneLength,
    request.passes, request.variant.number, counter]
  let input := (fields.map Nat.toUInt64).toArray ++ Array.replicate 121 0
  combine zeroBlock (combine zeroBlock input)

/-- The place of the earlier block for a position of a segment, from a random number. -/
def earlierPlace (layout : Layout) (segment : Segment) (position : Nat) (random : UInt64) : Nat :=
  let lane :=
    if segment.pass = 0 ∧ segment.slice = 0 then segment.lane
    else (random >>> 32).toNat % layout.lanes
  let sameLane := lane = segment.lane
  let finished :=
    if segment.pass = 0 then segment.slice * layout.segmentLength
    else layout.laneLength - layout.segmentLength
  let area :=
    if sameLane then finished + position - 1
    else if position = 0 then finished - 1 else finished
  let low := (random &&& 0xffffffff).toNat
  let back := (area * ((low * low) >>> 32)) >>> 32
  let start :=
    if segment.pass = 0 ∨ segment.slice = 3 then 0 else (segment.slice + 1) * layout.segmentLength
  lane * layout.laneLength + (start + (area - 1 - back)) % layout.laneLength

/-- Fills one position of a segment. -/
def fillPosition (request : Request) (layout : Layout) (segment : Segment) (counters : Array Block)
    (memory : Array Block) (position : Nat) : Array Block :=
  let column := segment.slice * layout.segmentLength + position
  let current := segment.lane * layout.laneLength + column
  let before := if column = 0 then current + layout.laneLength - 1 else current - 1
  let previous := memory.getD before zeroBlock
  let random :=
    if usesCounter request segment then (counters.getD (position / 128) zeroBlock).getD (position % 128) 0
    else previous.getD 0 0
  let earlier := memory.getD (earlierPlace layout segment position random) zeroBlock
  let made := combine previous earlier
  let kept :=
    if segment.pass = 0 ∨ request.version = .replacing then made
    else xorBlocks made (memory.getD current zeroBlock)
  memory.setIfInBounds current kept

/-- Fills a segment.  In the first slice of the first pass the first two blocks are already there. -/
def fillSegment (request : Request) (layout : Layout) (memory : Array Block) (segment : Segment) :
    Array Block :=
  let counters :=
    if usesCounter request segment then
      ((List.range ((layout.segmentLength + 127) / 128)).map fun index =>
        counterBlock request layout segment (index + 1)).toArray
    else #[]
  let start := if segment.pass = 0 ∧ segment.slice = 0 then 2 else 0
  (List.range (layout.segmentLength - start)).foldl (fun memory offset =>
    fillPosition request layout segment counters memory (start + offset)) memory

/-- The segments in the order in which they are filled. -/
def segments (request : Request) : List Segment :=
  (List.range request.passes).flatMap fun pass =>
    (List.range 4).flatMap fun slice =>
      (List.range request.lanes).map fun lane => ⟨pass, slice, lane⟩

/-- The hash from which the first two blocks of each lane are made. -/
def firstHash (request : Request) (password : Bytes) : Bytes :=
  Blake2b.hash 64 (Bytes.ofNatLE 4 request.lanes ++ Bytes.ofNatLE 4 request.length ++
    Bytes.ofNatLE 4 request.memory ++ Bytes.ofNatLE 4 request.passes ++
    Bytes.ofNatLE 4 request.version.number ++ Bytes.ofNatLE 4 request.variant.number ++
    framed password ++ framed request.salt ++ framed [] ++ framed request.associated)

/-- The memory before the first segment. -/
def initialMemory (layout : Layout) (seed : Bytes) : Array Block :=
  ((List.range layout.lanes).flatMap fun lane =>
    (List.range 2).map (fun column =>
      blockOfBytes (stretch 1024 (seed ++ Bytes.ofNatLE 4 column ++ Bytes.ofNatLE 4 lane))) ++
    List.replicate (layout.laneLength - 2) zeroBlock).toArray

/-- The stretched password. -/
def derive (request : Request) (password : Bytes) : Bytes :=
  let layout := layoutOf request
  let memory := (segments request).foldl (fillSegment request layout)
    (initialMemory layout (firstHash request password))
  let last := (List.range layout.lanes).foldl (fun sum lane =>
    xorBlocks sum (memory.getD ((lane + 1) * layout.laneLength - 1) zeroBlock)) zeroBlock
  stretch request.length (bytesOfBlock last)

end SingleSignOn.Digest.Argon2

import IdentityProvider.Argon2.Block

/-!
# Argon2id

A key is derived by filling memory with blocks, each compressed from the block
before it and another one that was filled earlier, in several passes. Memory is
a number of lanes, and a pass goes over them in four slices. Which earlier block
is taken depends in the first half of the first pass on the position alone, and
from then on on the contents.
-/

namespace IdentityProvider.Argon2

structure Costs where
  memory : Nat
  iterations : Nat
  lanes : Nat
  keyLength : Nat
  deriving Repr, DecidableEq

def version : Nat := 19

/-- The number of the variant that mixes both kinds of addressing. -/
def variant : Nat := 2

def word32 (n : Nat) : Bytes := (List.range 4).map fun i => UInt8.ofNat (n >>> (8 * i))

def counted (bs : Bytes) : Bytes := word32 bs.length ++ bs

/-- A digest of any length, chained from digests of sixty-four bytes. -/
def longHashFrom (length : Nat) (v : Bytes) : (fuel : Nat) → Bytes
  | 0 => v.take length
  | fuel + 1 =>
    if length ≤ 64 then Digest.blake2b length v
    else
      let next := Digest.blake2b 64 v
      next.take 32 ++ longHashFrom (length - 32) next fuel

def longHash (length : Nat) (message : Bytes) : Bytes :=
  longHashFrom length (word32 length ++ message) (length / 32 + 1)

def seed (c : Costs) (password salt : Bytes) : Bytes :=
  Digest.blake2b 64 (word32 c.lanes ++ word32 c.keyLength ++ word32 c.memory ++
    word32 c.iterations ++ word32 version ++ word32 variant ++ counted password ++ counted salt ++
    counted [] ++ counted [])

-- ----- Layout

/-- Blocks in a quarter of a lane. -/
def Costs.segment (c : Costs) : Nat := max c.memory (8 * c.lanes) / (4 * c.lanes)

def Costs.laneLength (c : Costs) : Nat := 4 * c.segment

def Costs.blockCount (c : Costs) : Nat := c.laneLength * c.lanes

structure Position where
  pass : Nat
  slice : Nat
  lane : Nat
  index : Nat
  deriving Repr

/-- Whether the earlier block is chosen by position alone. -/
def Position.independent (p : Position) : Bool := p.pass = 0 && p.slice < 2

/-- Takes the earlier block's lane and place from a word of 64 bits. -/
def Position.reference (c : Costs) (p : Position) (random : UInt64) : Nat :=
  let j1 := (random &&& 0xffffffff).toNat
  let j2 := (random >>> 32).toNat
  let lane := if p.pass = 0 ∧ p.slice = 0 then p.lane else j2 % c.lanes
  let same := lane = p.lane
  let finished := if p.pass = 0 then p.slice * c.segment else c.laneLength - c.segment
  let area :=
    if same then finished + p.index - 1
    else if p.index = 0 then finished - 1
    else finished
  let x := (j1 * j1) >>> 32
  let back := (area * x) >>> 32
  let relative := area - 1 - back
  let start := if p.pass = 0 then 0 else (p.slice + 1) % 4 * c.segment
  lane * c.laneLength + (start + relative) % c.laneLength

-- ----- Filling

/-- The words that choose blocks by position: the `counter`-th block of them. -/
def addressBlock (c : Costs) (p : Position) (counter : Nat) : Block :=
  let input := Block.ofWords
    #[UInt64.ofNat p.pass, UInt64.ofNat p.lane, UInt64.ofNat p.slice, UInt64.ofNat c.blockCount,
      UInt64.ofNat c.iterations, UInt64.ofNat variant, UInt64.ofNat counter]
  Block.compress .zero (Block.compress .zero input)

/-- The words for every index of a segment. -/
def addresses (c : Costs) (p : Position) : Array UInt64 :=
  if p.independent then
    ((List.range ((c.segment + 127) / 128)).flatMap fun i =>
      (addressBlock c p (i + 1)).words).toArray
  else #[]

def blockAt (memory : Array Block) (i : Nat) : Block := memory[i]?.getD .zero

def fillBlock (c : Costs) (words : Array UInt64) (memory : Array Block) (p : Position) :
    Array Block :=
  let here := p.slice * c.segment + p.index
  let place := p.lane * c.laneLength + here
  let before := p.lane * c.laneLength + (here + c.laneLength - 1) % c.laneLength
  let previous := blockAt memory before
  let random := if p.independent then words[p.index]?.getD 0 else previous.r0.w0
  let fresh := Block.compress previous (blockAt memory (p.reference c random))
  let block := if p.pass = 0 then fresh else fresh.xor (blockAt memory place)
  memory.setIfInBounds place block

/-- The first two blocks of a lane are made from the seed and not filled. -/
def fillSegment (c : Costs) (pass slice : Nat) (memory : Array Block) (lane : Nat) : Array Block :=
  let words := addresses c ⟨pass, slice, lane, 0⟩
  let first := if pass = 0 ∧ slice = 0 then 2 else 0
  (List.range' first (c.segment - first)).foldl
    (fun memory index => fillBlock c words memory ⟨pass, slice, lane, index⟩) memory

def fillSlice (c : Costs) (pass : Nat) (memory : Array Block) (slice : Nat) : Array Block :=
  (List.range c.lanes).foldl (fillSegment c pass slice) memory

def fillPass (c : Costs) (memory : Array Block) (pass : Nat) : Array Block :=
  (List.range 4).foldl (fillSlice c pass) memory

def firstBlocks (c : Costs) (h : Bytes) : Array Block :=
  (List.range c.lanes).foldl (fun memory lane =>
    [0, 1].foldl (fun memory i =>
      memory.setIfInBounds (lane * c.laneLength + i)
        (.ofBytes (longHash 1024 (h ++ word32 i ++ word32 lane)))) memory)
    (Array.replicate c.blockCount .zero)

/-- The sum of the last blocks of all lanes. -/
def finalBlock (c : Costs) (memory : Array Block) : Block :=
  (List.range c.lanes).foldl
    (fun sum lane => sum.xor (blockAt memory (lane * c.laneLength + c.laneLength - 1))) .zero

def derive (c : Costs) (password salt : Bytes) : Bytes :=
  let memory := firstBlocks c (seed c password salt)
  let memory := (List.range c.iterations).foldl (fillPass c) memory
  longHash c.keyLength (finalBlock c memory).bytes

end IdentityProvider.Argon2

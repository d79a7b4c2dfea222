/-! # Pseudo-random words

Follows `SmallRng` of rand 0.8: xoshiro256++, seeded from one word by a permuted congruential
sequence.  `pickQuarter` is its `gen_range(0..4)`: the top two bits of a word, which is drawn
again while the rest of it lies in the upper half.  The limit `maxTries` on drawing again is
the only difference. -/

set_option autoImplicit false

namespace StepLab.Random

def rotateLeft (x : UInt64) (amount : UInt64) : UInt64 :=
  (x <<< amount) ||| (x >>> (64 - amount))

def rotateRight32 (x : UInt32) (amount : UInt32) : UInt32 :=
  (x >>> amount) ||| (x <<< ((32 - amount) % 32))

def spread (x : UInt64) : UInt64 :=
  x * 6364136223846793005 + 11634580027462260723

def permute (x : UInt64) : UInt32 :=
  rotateRight32 (((x >>> 18) ^^^ x) >>> 27).toUInt32 (x >>> 59).toUInt32

/-- Two words of the congruential sequence as one word, the first one low, and
where the sequence stands after them. -/
def spreadTwice (x : UInt64) : UInt64 × UInt64 :=
  let first := spread x
  let second := spread first
  ((permute first).toUInt64 ||| ((permute second).toUInt64 <<< 32), second)

structure Generator where
  s0 : UInt64
  s1 : UInt64
  s2 : UInt64
  s3 : UInt64
  deriving DecidableEq, Repr

namespace Generator

def ofSeed (seed : UInt64) : Generator :=
  let (s0, x0) := spreadTwice seed
  let (s1, x1) := spreadTwice x0
  let (s2, x2) := spreadTwice x1
  let (s3, _) := spreadTwice x2
  ⟨s0, s1, s2, s3⟩

def next (g : Generator) : UInt64 × Generator :=
  let drawn := rotateLeft (g.s0 + g.s3) 23 + g.s0
  let t := g.s1 <<< 17
  let s2 := g.s2 ^^^ g.s0
  let s3 := g.s3 ^^^ g.s1
  let s1 := g.s1 ^^^ s2
  let s0 := g.s0 ^^^ s3
  (drawn, ⟨s0, s1, s2 ^^^ t, rotateLeft s3 45⟩)

/-- Whether a drawn word is kept: its low 62 bits lie in their lower half. -/
def accepts (v : UInt64) : Bool := (v <<< 2) ≤ 0x7FFFFFFFFFFFFFFF

def drawAccepted : Nat → Generator → UInt64 × Generator
  | 0, g => g.next
  | tries + 1, g =>
      let (v, rest) := g.next
      if accepts v then (v, rest) else drawAccepted tries rest

/-- How often a refused word is drawn again.  Every second word is kept, so the
limit is out of reach of any run. -/
def maxTries : Nat := 4096

def pickQuarter (g : Generator) : Nat × Generator :=
  let (v, rest) := drawAccepted maxTries g
  ((v >>> 62).toNat, rest)

end Generator

end StepLab.Random

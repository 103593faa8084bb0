import Egress.RandomSource

/-!
# The Mersenne twister

A generator of 32-bit words with a state of 624 words.  One word of the seed fills the state by a
linear recurrence; whenever all words of a state have been used, the state is advanced as a whole.
A sample combines two outputs into the 53 bits of a double in the unit interval.
-/

namespace Egress

structure Twister where
  words : Array UInt32
  /-- How many words of the state have been used. -/
  used : Nat
  deriving Inhabited

namespace Twister

def size : Nat := 624

def middle : Nat := 397

/-- Extend the words of a fresh state up to a length. -/
def fill (seed : UInt32) : Nat → Array UInt32
  | 0 => #[seed]
  | index + 1 =>
    let words := fill seed index
    let last := words.getD index 0
    words.push ((1812433253 : UInt32) * (last ^^^ (last >>> 30)) + UInt32.ofNat (index + 1))

def ofSeed (seed : UInt32) : Twister := ⟨fill seed (size - 1), size⟩

/-- The word that replaces one of a state, from it, its successor and the word `middle` places
on. -/
def mix (current next far : UInt32) : UInt32 :=
  let joined := (current &&& 0x80000000) ||| (next &&& 0x7fffffff)
  far ^^^ (joined >>> 1) ^^^ (if joined &&& 1 = 0 then 0 else 0x9908b0df)

/-- Replace all words, each from words of the state at that moment. -/
def advance (words : Array UInt32) : Array UInt32 :=
  (List.range size).foldl (fun words index =>
    words.setIfInBounds index (mix (words.getD index 0) (words.getD ((index + 1) % size) 0)
      (words.getD ((index + middle) % size) 0))) words

/-- Spread the information of a word over all its bits. -/
def temper (word : UInt32) : UInt32 :=
  let word := word ^^^ (word >>> 11)
  let word := word ^^^ ((word <<< 7) &&& 0x9d2c5680)
  let word := word ^^^ ((word <<< 15) &&& 0xefc60000)
  word ^^^ (word >>> 18)

def next (twister : Twister) : UInt32 × Twister :=
  if twister.used < size then
    (temper (twister.words.getD twister.used 0), { twister with used := twister.used + 1 })
  else
    let words := advance twister.words
    (temper (words.getD 0 0), ⟨words, 1⟩)

/-- The 53 bits of a sample, below `2 ^ 53`. -/
def bits (twister : Twister) : Nat × Twister :=
  let (high, twister) := twister.next
  let (low, twister) := twister.next
  ((high >>> 5).toNat * 67108864 + (low >>> 6).toNat, twister)

/-- A sample from the unit interval, one excluded. -/
def sample (twister : Twister) : Float × Twister :=
  let (bits, twister) := twister.bits
  (Float.ofNat bits / 9007199254740992.0, twister)

instance : RandomSource Twister Float := ⟨sample⟩

/-- A seed is one word. -/
instance : SeededSource Twister where
  ofSeed? number :=
    if 0 ≤ number ∧ number < UInt32.size then some (ofSeed (UInt32.ofNat number.toNat)) else none

end Twister

end Egress

import HatReel.Binary.Double

/-!
A generator of random numbers with 128 bits of state, moved on by a linear congruence; a number is
the exclusive or of the state's halves, rotated by the state's top bits. Seeds of any size are mixed
into a pool of four words first.
-/

namespace HatReel.Random

open HatReel.Binary

structure Generator where
  state : Nat
  increment : Nat
  deriving DecidableEq, Repr

def word : Nat := 2 ^ 32

/-- The seed's words in base `2 ^ 32`, the lowest first; at least one, and at most `fuel` of
them. -/
def seedWords : Nat → Nat → List Nat
  | 0, _ => []
  | fuel + 1, seed => seed % word :: (if seed / word = 0 then [] else seedWords fuel (seed / word))

def hash (multiplier : Nat) (v : Nat) : Nat × Nat :=
  let next := multiplier * 0x931e8875 % word
  let v := (v ^^^ multiplier) * next % word
  (v ^^^ (v / 2 ^ 16), next)

def combine (x y : Nat) : Nat :=
  let r := (0xca01f9dd * x + (word * word - 0x4973f715 * y)) % word
  r ^^^ (r / 2 ^ 16)

structure Pool where
  words : List Nat
  multiplier : Nat

def Pool.stir (p : Pool) (source i : Nat) : Pool :=
  let (h, next) := hash p.multiplier source
  ⟨p.words.modify i (fun w => combine w h), next⟩

def Pool.fill (entropy : List Nat) : Pool :=
  (List.range 4).foldl
    (fun p i =>
      let (h, next) := hash p.multiplier (entropy.getD i 0)
      ⟨p.words ++ [h], next⟩)
    ⟨[], 0x43b0d7e5⟩

/-- Every word of the pool is stirred into every other, then the words of a longer seed into all. -/
def Pool.ofEntropy (entropy : List Nat) : Pool :=
  let mixed := (List.range 4).foldl
    (fun p s => (List.range 4).foldl
      (fun p d => if s == d then p else p.stir (p.words.getD s 0) d) p)
    (Pool.fill entropy)
  (entropy.drop 4).foldl (fun p w => (List.range 4).foldl (fun p d => p.stir w d) p) mixed

def Pool.draw (p : Pool) : List Nat :=
  ((List.range 8).foldl
    (fun (acc : List Nat × Nat) i =>
      let v := p.words.getD (i % 4) 0 ^^^ acc.2
      let next := acc.2 * 0x58f38ded % word
      let v := v * next % word
      (acc.1 ++ [v ^^^ (v / 2 ^ 16)], next))
    ([], 0x8b51f9dd)).1

def stateSize : Nat := 2 ^ 128

def Generator.step (g : Generator) : Generator :=
  { g with state := (g.state * 0x2360ed051fc65da44385df649fccf645 + g.increment) % stateSize }

def Generator.ofSeed (seed : Nat) : Generator :=
  let words := (Pool.ofEntropy (seedWords (seed.log2 / 32 + 1) seed)).draw
  let long (i : Nat) : Nat := words.getD (2 * i) 0 + words.getD (2 * i + 1) 0 * word
  let increment := ((long 2 * 2 ^ 64 + long 3) * 2 + 1) % stateSize
  let g : Generator := (Generator.mk 0 increment).step
  Generator.step { g with state := (g.state + (long 0 * 2 ^ 64 + long 1)) % stateSize }

/-- The 64 bits that a state shows. -/
def Generator.output (g : Generator) : Nat :=
  let v := (g.state / 2 ^ 64) ^^^ (g.state % 2 ^ 64)
  let r := g.state / 2 ^ 122
  (v / 2 ^ r + v * 2 ^ (64 - r)) % 2 ^ 64

def whole {α : Type} [OfScientific α] (n : Nat) : α := OfScientific.ofScientific n false 0

/-- A number at least zero and below one, a multiple of `2 ^ (-53)`. -/
def Generator.next {α : Type} [Div α] [OfScientific α] (g : Generator) : α × Generator :=
  let g := g.step
  (whole (g.output / 2 ^ 11) / whole (2 ^ 53), g)

end HatReel.Random

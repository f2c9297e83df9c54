import Fixture.Random.Keystream

/-!
# Drawing from a source

A source is a stream of words and the place reached in it. Whole numbers below a bound are drawn
without bias: a draw is the high part of a product, and one whose low part lies outside the largest
zone that every result fills equally is repeated. There are streams on which no draw ever lies
inside, so a source says how often it repeats at most; the draw after that is taken as it is, and so
every result lies below the bound whatever the stream. At least half of all draws lie inside, so for
the words of a seed a thousand repetitions stand for ever.
-/

namespace Fixture.Random

structure Source where
  word : Nat → UInt32
  position : Nat
  /-- How often a draw is repeated at most. -/
  patience : Nat

/-- Something drawn from a source, which moves on. -/
abbrev Draw := StateM Source

namespace Source

def seeded (seed : Nat) : Source := ⟨keystream seed, 0, 1000⟩

end Source

def next32 : Draw Nat := fun source =>
  ((source.word source.position).toNat, { source with position := source.position + 1 })

/-- Two words, the low one first. -/
def next64 : Draw Nat := fun source =>
  ((source.word source.position).toNat + (source.word (source.position + 1)).toNat * Nat.pow 2 32,
    { source with position := source.position + 2 })

/-- The largest low part that is inside: the bound shifted up as far as its digits allow. -/
def zone (bits bound : Nat) : Nat := bound * Nat.pow 2 (bits - (bound.log2 + 1)) - 1

def accepts (bits bound drawn : Nat) : Bool := drawn * bound % Nat.pow 2 bits ≤ zone bits bound

/-- A number below a bound from draws of so many bits, repeated so often at most. -/
def belowWithin (bits bound : Nat) (draw : Draw Nat) : Nat → Draw Nat
  | 0 => fun source =>
    let (drawn, source) := draw source
    (drawn * bound / Nat.pow 2 bits, source)
  | repetitions + 1 => fun source =>
    let (drawn, source) := draw source
    if accepts bits bound drawn then (drawn * bound / Nat.pow 2 bits, source)
    else belowWithin bits bound draw repetitions source

/-- A number below a bound from words of 32 bits. -/
def below32 (bound : Nat) : Draw Nat := fun source =>
  belowWithin 32 bound next32 source.patience source

/-- A number below a bound from words of 64 bits. -/
def below64 (bound : Nat) : Draw Nat := fun source =>
  belowWithin 64 bound next64 source.patience source

end Fixture.Random

import Fixture.Calendar.Clock
import Fixture.Literal
import Fixture.Random.Source

/-!
# The supply of values

Values are made from two things that change as they are used: a random source and a clock that
every date moves. A strategy takes one literal from the supply.
-/

namespace Fixture

structure Supply where
  source : Random.Source
  clock : Clock

/-- How a kind of value takes a literal from the supply. -/
abbrev Strategy := StateM Supply String

namespace Supply

open Fixture.Random

/-- The start of 2020. -/
def usualStart : Int := 1577836800000

/-- The supply of a seed from an instant on. -/
def starting (seed : Nat) (instant : Int) : Supply := ⟨Source.seeded seed, .ofInstant instant⟩

def seeded (seed : Nat) : Supply := starting seed usualStart

/-- The instant that its clock shows. -/
def instant (supply : Supply) : Int := supply.clock.instant

/-- A draw from the source; the clock stays. -/
def draw {α : Type} (take : Draw α) : StateM Supply α := fun supply =>
  let (value, source) := take supply.source
  (value, { supply with source })

/-- No date lies this far from the one before, in milliseconds. -/
def stepBound : Nat := 1000000000

/-- Moves the clock by a random step in either direction. -/
def advance : StateM Supply Clock := do
  let step ← draw (below64 (2 * stepBound - 1))
  modifyGet fun supply =>
    let clock := supply.clock.moved ((step : Int) - (stepBound - 1 : Nat))
    (clock, { supply with clock })

end Supply

namespace Strategy

open Fixture.Random Fixture.Supply

/-- Always the same literal. -/
def constant (literal : String) : Strategy := pure literal

/-- The clock after its next step as the literal of its text. -/
def stamp : Strategy := do
  let clock ← advance
  return Literal.quote clock.toIso

def letters : List Char := "ABCDEFGHIJKLMNOPQRSTUVWXYZabcdefghijklmnopqrstuvwxyz".toList

/-- Five random letters. -/
def text : Strategy := do
  let positions ← (List.replicate 5 letters.length).mapM fun bound => draw (below64 bound)
  return Literal.quote (String.ofList (positions.map fun position => letters.getD position 'A'))

/-- A number below one hundred. -/
def integer : Strategy := do
  return Nat.repr (← draw (below32 100))

def long : Strategy := do
  return Nat.repr (← draw (below32 100)) ++ "L"

def boolean : Strategy := do
  return if (← draw next64) < Nat.pow 2 63 then "true" else "false"

/-- A number from zero up to one hundred with two decimal places. -/
def double : Strategy := do
  return Literal.hundredths (Literal.percentHundredths ((← draw next64) / Nat.pow 2 12)) ++ "d"

def date : Strategy := do
  return "isoDateStringToDate(" ++ (← stamp) ++ ")"

/-- The sixteen bytes of a random identifier, with the bits that mark it as one. -/
def marked (bytes : List Nat) : List Nat :=
  bytes.mapIdx fun position byte =>
    if position == 6 then 0x40 + byte % 0x10
    else if position == 8 then 0x80 + byte % 0x40
    else byte

/-- Bytes in groups joined by hyphens. -/
def grouped : List Nat → List Nat → List Char
  | [], _ => []
  | [size], bytes => (bytes.take size).flatMap (Literal.hex 2)
  | size :: sizes, bytes =>
    (bytes.take size).flatMap (Literal.hex 2) ++ '-' :: grouped sizes (bytes.drop size)

/-- A random identifier. -/
def uuid : Strategy := do
  let words ← (List.replicate 16 ()).mapM fun _ => draw next32
  let bytes := marked (words.map (· % 0x100))
  return "UUID.fromString(" ++ Literal.quote (String.ofList (grouped [4, 2, 2, 2, 6] bytes)) ++ ")"

end Strategy

end Fixture

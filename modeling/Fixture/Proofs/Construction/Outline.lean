import Fixture.Proofs.Construction.Steps
import Fixture.Proofs.Registry

/-!
# The outline of a fixture

Whatever is drawn from the supply becomes the text of one literal, and nothing else. So the events
of a fixture have an outline that is known before anything is drawn: in some of them a literal of a
registered kind is still missing. To realize an outline is to draw these literals from a supply, one
after the other.
-/

namespace Fixture

/-- A place for the text of a value in an event. -/
inductive Slot where
  | declare (type name : String)
  | append (collection : String)
  | call (owner method : String)

/-- The event with a text in the slot. -/
def Slot.fill (text : String) : Slot → Event
  | declare type name => .declare type name text
  | append collection => .append collection text
  | call owner method => .call owner method text

/-- An event of an outline: it is settled, or it still lacks the literal of a kind. -/
inductive Sketch where
  | settled (event : Event)
  | lacking (slot : Slot) (kind : String) (strategy : Strategy)

namespace Sketch

/-- The strategy for a literal that is lacking is the one that the registry has for its kind. -/
def Registered (registry : Registry) (catalog : Catalog) : Sketch → Prop
  | settled _ => True
  | lacking _ kind strategy => registry.strategy? catalog kind = some strategy

def realize (supply : Supply) : Sketch → Event × Supply
  | settled event => (event, supply)
  | lacking slot _ strategy => ((slot.fill (strategy.run supply).1), (strategy.run supply).2)

def realizeAll (supply : Supply) : List Sketch → List Event × Supply
  | [] => ([], supply)
  | sketch :: rest =>
    let (event, middle) := sketch.realize supply
    let (events, after) := realizeAll middle rest
    (event :: events, after)

theorem realizeAll_cons {before middle after : Supply} {sketch : Sketch} {rest : List Sketch}
    {event : Event} {events : List Event} (hsketch : sketch.realize before = (event, middle))
    (hrest : realizeAll middle rest = (events, after)) :
    realizeAll before (sketch :: rest) = (event :: events, after) := by
  rw [realizeAll, hsketch]
  simp only [hrest]

theorem realizeAll_append {before middle after : Supply} {first second : List Sketch}
    {events more : List Event} (hfirst : realizeAll before first = (events, middle))
    (hsecond : realizeAll middle second = (more, after)) :
    realizeAll before (first ++ second) = (events ++ more, after) := by
  induction first generalizing before events with
  | nil =>
    cases hfirst
    exact hsecond
  | cons sketch rest ih =>
    cases hfirst
    exact realizeAll_cons rfl (ih rfl)

theorem realizeAll_settled (supply : Supply) (events : List Event) :
    realizeAll supply (events.map settled) = (events, supply) := by
  induction events with
  | nil => rfl
  | cons event rest ih => exact realizeAll_cons rfl ih

end Sketch

namespace Plan

variable (plan : Plan)

/-- The literal of a simple type that is of no registered kind: that of an enumeration. -/
def memberOf (name : String) : Except Obstacle String :=
  match plan.catalog.lookup name with
  | .error obstacle => .error obstacle
  | .ok (some (.enumeration enumeration)) => Registry.memberLiteral enumeration
  | .ok _ => .error (.unsupportedType name)

/-- The event with a literal of a simple type in a slot, before anything is drawn. -/
def inscribe (slot : Slot) (name : String) : Except Obstacle Sketch :=
  match plan.registry.strategy? plan.catalog name with
  | some strategy => .ok (.lacking slot name strategy)
  | none => (plan.memberOf name).map fun text => .settled (slot.fill text)

variable {plan} {name : String}

theorem draw_of_registered {strategy : Strategy}
    (h : plan.registry.strategy? plan.catalog name = some strategy) (supply : Supply) :
    plan.draw name supply = (.ok (strategy.run supply).1, (strategy.run supply).2) :=
  Registry.literal_of_strategy h supply

theorem draw_of_not_registered (h : plan.registry.strategy? plan.catalog name = none)
    (supply : Supply) : plan.draw name supply = (plan.memberOf name, supply) :=
  Registry.literal_of_no_strategy h supply

variable (plan) in
/-- Whether a literal can be drawn is known beforehand, and an obstacle leaves the supply as it
is. -/
theorem inscribe_eq (slot : Slot) (name : String) (before : Supply) :
    (∃ sketch text after, plan.draw name before = (.ok text, after) ∧
        plan.inscribe slot name = .ok sketch ∧ sketch.realize before = (slot.fill text, after) ∧
        sketch.Registered plan.registry plan.catalog) ∨
      ∃ obstacle, plan.draw name before = (.error obstacle, before) ∧
        plan.inscribe slot name = .error obstacle := by
  rw [inscribe]
  cases hstrategy : plan.registry.strategy? plan.catalog name with
  | some strategy =>
    exact .inl ⟨_, _, _, draw_of_registered hstrategy before, rfl, rfl, hstrategy⟩
  | none =>
    rw [draw_of_not_registered hstrategy]
    cases plan.memberOf name with
    | error obstacle => exact .inr ⟨obstacle, rfl, rfl⟩
    | ok text => exact .inl ⟨_, _, _, rfl, rfl, rfl, trivial⟩

end Plan

end Fixture

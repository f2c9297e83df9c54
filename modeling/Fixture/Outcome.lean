import Fixture.Construction

/-!
# Fixtures

The outcome of constructing one value of a root type, with the scope, the settings and the supply
that are in force for it.
-/

namespace Fixture

/-- How a construction ended: the root variable or the failure, the events up to there, and the
supply that is left. -/
structure Outcome where
  result : Except Failure String
  events : List Event
  supply : Supply

namespace Outcome

/-- The text of the events, which after a failure is the part before it. -/
def text (self : Outcome) : String := render self.events

/-- The failure in one line, after the root it belongs to. -/
def summary (root : String) : String := s!"generating `{root}` failed"

end Outcome

/-- The supply that settings ask for: that of their seed, or else another one. -/
def Settings.supply (settings : Settings) (otherwise : Supply) : Supply :=
  match settings.seed with
  | some seed => .seeded seed
  | none => otherwise

/-- The settings a catalogue brings along, or the usual ones. -/
def Catalog.settingsInForce (catalog : Catalog) : Settings := catalog.settings.getD {}

/-- The module of the root: that of its definition, or else the one in its name. -/
def moduleOfRoot (catalog : Catalog) (root : String) : Except Obstacle String :=
  match catalog.lookup root with
  | .error obstacle => .error obstacle
  | .ok (some definition) => .ok definition.module
  | .ok none => .ok (Name.moduleOf root)

/-- The scope in force: the one in the settings, or else the module of the root. -/
def effectiveScope (catalog : Catalog) (settings : Settings) (root : String) :
    Except Obstacle String :=
  match settings.scope with
  | some scope => .ok scope
  | none => moduleOfRoot catalog root

/-- How a construction into a sink ended, with the sink and the supply that are left. -/
structure Delivery (σ : Type) where
  result : Except Failure String
  sink : σ
  supply : Supply

/-- Constructs one value of a root type into a fresh sink. -/
def Catalog.deliver (σ : Type) [Sink σ] (catalog : Catalog) (registry : Registry)
    (settings : Settings) (supply : Supply) (root : String) : Delivery σ :=
  match effectiveScope catalog settings root with
  | .error obstacle => ⟨.error { obstacle }, Sink.fresh, supply⟩
  | .ok scope =>
    let plan : Plan := ⟨catalog, registry, settings, scope⟩
    let (result, progress) :=
      (plan.construct settings.maxDepth [] root []).run.run { supply, sink := Sink.fresh }
    ⟨result, progress.sink, progress.supply⟩

/-- The fixture of a root type: the outcome of constructing one value of it, with all events. -/
def Catalog.fixture (catalog : Catalog) (registry : Registry) (settings : Settings) (supply : Supply)
    (root : String) : Outcome :=
  let delivery := catalog.deliver Log registry settings supply root
  ⟨delivery.result, delivery.sink.toList, delivery.supply⟩

end Fixture

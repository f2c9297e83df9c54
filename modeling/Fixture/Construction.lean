import Fixture.Emission
import Fixture.Ledger
import Fixture.Plan

/-!
# Constructing a fixture

A fixture is a sequence of statements that construct a value of the root type and give every
property a value. Composites are constructed depth first, with their properties in the order of
their names; each collection gets one element. The composites that are being constructed form a
path: none may be entered again with the same arguments, and the path has a greatest length, which
is what brings every construction to an end.

When a construction fails, the names and the supply are kept, and the sink has the events before the
failure. No step looks at the sink.
-/

namespace Fixture

/-- What has been done so far: what is left of the supply, the names that are taken, and the sink
with the events. -/
structure Progress (σ : Type) where
  supply : Supply
  ledger : Ledger := {}
  sink : σ

/-- Steps that change the progress and may fail. -/
abbrev Construction (σ : Type) := ExceptT Failure (StateM (Progress σ))

variable {σ : Type}

namespace Construction

def emit [Sink σ] (event : Event) : Construction σ Unit :=
  modify fun progress => { progress with sink := Sink.accept progress.sink event }

/-- A new name for a variable. -/
def issue (base : String) : Construction σ String :=
  modifyGet fun progress =>
    let (name, ledger) := progress.ledger.issue base
    (name, { progress with ledger })

def stopAt {α : Type} (obstacle : Obstacle) : Construction σ α := throw { obstacle }

def orStop {α : Type} : Except Obstacle α → Construction σ α
  | .ok value => pure value
  | .error obstacle => stopAt obstacle

/-- A failure inside happens on a property of an owner. -/
def onProperty {α : Type} (owner property : String) (inside : Construction σ α) :
    Construction σ α :=
  ExceptT.adapt (·.seenFrom owner property) inside

end Construction

namespace Plan

open Construction

variable (plan : Plan)

/-- A literal of a simple type from the supply. -/
def literal (name : String) : Construction σ String := ExceptT.mk fun progress =>
  let (result, supply) := (plan.registry.literal plan.catalog name).run.run progress.supply
  (result.mapError fun obstacle => { obstacle }, { progress with supply })

/-- Gives a property a value that has its own variable. -/
def assign [Sink σ] (owner writer value : String) : Construction σ Unit := do
  emit .blank
  emit (.call owner writer value)
  emit .blank

/-- The statement that begins a collection. -/
def collectionEvent (kind : CollectionKind) (element collection : String) : Event :=
  match kind with
  | .list => .declareList element collection
  | .set => .declareSet element collection

/-- Gives a property of some shape a value. Further variables are made by the given construction. -/
def populateShape [Sink σ] (construct : String → List Ty → Construction σ String)
    (target writer : String) (property : Property) : Shape → Construction σ Unit
  | .simple name =>
    if declaresParam property then do
      assign target writer (← construct name [])
    else do
      emit (.call target writer (← plan.literal name))
  | .collection kind element => do
    let collection ← issue property.name
    emit .blank
    emit (collectionEvent kind (Name.simple element.rawName) collection)
    let value ←
      if plan.isSimple element.rawName then plan.literal element.rawName
      else construct element.rawName []
    emit (.append collection value)
    emit (.call target writer collection)
    emit .blank
  | .composite raw args => do
    assign target writer (← construct raw args)

/-- Gives one property of a composite a value, unless it is to be ignored. -/
def populate [Sink σ] (construct : String → List Ty → Construction σ String) (target : String)
    (owner : Composite) (args : List Ty) (property : Property) : Construction σ Unit :=
  if plan.settings.ignores property.name then pure ()
  else
    onProperty owner.name property.name do
      let (writer, shape) ← orStop (plan.writerAndShape owner args property)
      plan.populateShape construct target writer property shape

/-- The declaration of a variable for a composite that is still empty. -/
def declaration (raw : String) (args : List Ty) (target : String) : Event :=
  let simple := Name.simple raw
  .declare (simple ++ Ty.displayArgs args) target
    (if args.isEmpty then s!"new {simple}()" else s!"new {simple}<>()")

/-- Declares a variable of a type and gives it its value. The path holds the keys of the composites
that are being constructed, the innermost first, and there is room for so many more. -/
def construct [Sink σ] : (room : Nat) → (path : List String) → (raw : String) → (args : List Ty) →
    Construction σ String
  | room, path, raw, args => do
    let target ← issue (Name.uncapitalize (Name.simple raw))
    if plan.isSimple raw then
      emit (.declare (Name.simple raw) target (← plan.literal raw))
    else
      let composite ← orStop (plan.enter raw args path)
      match room with
      | 0 => stopAt (.tooDeep plan.settings.maxDepth)
      | room + 1 =>
        emit (declaration raw args target)
        (inOrder composite).forM
          (plan.populate (construct room (key composite args :: path)) target composite args)
    return target

end Plan

end Fixture

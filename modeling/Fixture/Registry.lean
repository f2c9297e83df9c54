import Fixture.Catalog.Basic
import Fixture.Supply

/-!
# Simple kinds

A registry knows the kinds of values that are written as one literal. A name means a registered kind
if it is registered as it stands; its simple name is tried only when the catalogue has no type of
that name, so types of the catalogue are never hidden. Enumerations of the catalogue are simple too:
their literal is their first member.
-/

namespace Fixture

/-- Kinds with their strategies, in the order of their first registration. -/
structure Registry where
  strategies : List (String × Strategy)

namespace Registry

def empty : Registry := ⟨[]⟩

private def put (kind : String) (strategy : Strategy) :
    List (String × Strategy) → List (String × Strategy)
  | [] => [(kind, strategy)]
  | entry :: rest =>
    if entry.1 == kind then (kind, strategy) :: rest else entry :: put kind strategy rest

/-- Adds a kind, or gives a known kind another strategy in its old place. -/
def register (self : Registry) (kind : String) (strategy : Strategy) : Registry :=
  ⟨put kind strategy self.strategies⟩

def builtin : Registry := ⟨[
  ("UUID", Strategy.uuid),
  ("String", Strategy.text),
  ("Integer", Strategy.integer),
  ("int", Strategy.integer),
  ("Long", Strategy.long),
  ("long", Strategy.long),
  ("Date", Strategy.date),
  ("Boolean", Strategy.boolean),
  ("boolean", Strategy.boolean),
  ("Double", Strategy.double),
  ("double", Strategy.double)]⟩

def kinds (self : Registry) : List String := self.strategies.map (·.1)

/-- The strategy registered under a name as it stands. -/
def registered? (self : Registry) (kind : String) : Option Strategy :=
  self.strategies.lookup kind

/-- The strategy that a name means beside a catalogue. -/
def strategy? (self : Registry) (catalog : Catalog) (name : String) : Option Strategy :=
  match self.registered? name with
  | some strategy => some strategy
  | none =>
    match catalog.lookup name with
    | .ok none => self.registered? (Name.simple name)
    | _ => none

/-- Values of the type are written as one literal. -/
def isSimple (self : Registry) (catalog : Catalog) (name : String) : Bool :=
  (self.strategy? catalog name).isSome || catalog.isEnumeration name

/-- The literal of an enumeration: its first member. -/
def memberLiteral (enumeration : Enumeration) : Except Obstacle String :=
  match enumeration.members with
  | first :: _ => .ok (enumeration.name ++ "." ++ first)
  | [] => .error (.emptyEnumeration enumeration.qualifiedName)

/-- A literal of a simple type. -/
def literal (self : Registry) (catalog : Catalog) (name : String) :
    ExceptT Obstacle (StateM Supply) String :=
  match self.strategy? catalog name with
  | some strategy => ExceptT.lift strategy
  | none =>
    match catalog.lookup name with
    | .error obstacle => throw obstacle
    | .ok (some (.enumeration enumeration)) => ExceptT.mk (pure (memberLiteral enumeration))
    | .ok _ => throw (.unsupportedType name)

end Registry

end Fixture

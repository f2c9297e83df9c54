import Fixture.Definition
import Fixture.Json.Flaw
import Fixture.Obstacle
import Fixture.Settings
import Fixture.Ty.Parser

/-!
# Catalogues

The types that can be constructed, in the order in which they came. A definition is admitted only if
it has a name, repeats none of its parameters and properties, and has a qualified name of its own;
nothing ever leaves a catalogue. Everything else reaches it by name, through `lookup` and
`qualifyIn`.
-/

namespace Fixture

structure Catalog where
  definitions : List Definition := []
  settings : Option Settings := none
  deriving Inhabited, BEq

namespace Catalog

/-- Why a catalogue cannot be built. -/
inductive Flaw where
  | unreadable (flaw : Json.Flaw)
  | badType (text : String) (flaw : Ty.Flaw)
  | emptyName
  | duplicateType (qualified : String)
  | duplicateProperty (owner property : String)
  | duplicateParam (owner param : String)
  /-- Properties and members for the same type. -/
  | ambiguousKind (qualified : String)

namespace Flaw

def message : Flaw → String
  | unreadable flaw => flaw.message
  | badType text flaw =>
    let reason := flaw.message
    s!"malformed type expression `{text}`: {reason}"
  | emptyName => "type entry has an empty name"
  | duplicateType qualified => s!"duplicate type `{qualified}`"
  | duplicateProperty owner property => s!"type `{owner}` declares property `{property}` twice"
  | duplicateParam owner param => s!"type `{owner}` declares generic parameter `{param}` twice"
  | ambiguousKind qualified => s!"type `{qualified}` declares both properties and enum members"

end Flaw

def empty : Catalog := {}

/-- The definition with a qualified name. -/
def find? (self : Catalog) (qualified : String) : Option Definition :=
  self.definitions.find? (·.qualifiedName == qualified)

def contains (self : Catalog) (qualified : String) : Bool :=
  self.definitions.any (·.qualifiedName == qualified)

/-- The first name that stands in the list before. -/
def firstRepeated? : (seen : List String) → List String → Option String
  | _, [] => none
  | seen, name :: rest =>
    if seen.contains name then some name else firstRepeated? (seen ++ [name]) rest

/-- What is wrong with a definition whatever catalogue it is meant for. -/
def flawOf? (definition : Definition) : Option Flaw :=
  if definition.name.isEmpty then some .emptyName
  else
    match definition with
    | .enumeration _ => none
    | .composite c =>
      match firstRepeated? [] c.params, firstRepeated? [] (c.properties.map (·.name)) with
      | some param, _ => some (.duplicateParam c.qualifiedName param)
      | none, some property => some (.duplicateProperty c.qualifiedName property)
      | none, none => none

def insert (self : Catalog) (definition : Definition) : Except Flaw Catalog :=
  match flawOf? definition with
  | some flaw => .error flaw
  | none =>
    if self.contains definition.qualifiedName then
      .error (.duplicateType definition.qualifiedName)
    else .ok { self with definitions := self.definitions ++ [definition] }

/-- Inserts one definition after another up to the first that is not admitted; what was inserted
before it stays. -/
def insertAll (self : Catalog) : List Definition → Catalog × Option Flaw
  | [] => (self, none)
  | definition :: rest =>
    match self.insert definition with
    | .error flaw => (self, some flaw)
    | .ok larger => larger.insertAll rest

def ofDefinitions (definitions : List Definition) : Except Flaw Catalog :=
  match empty.insertAll definitions with
  | (catalog, none) => .ok catalog
  | (_, some flaw) => .error flaw

/-- Takes over the types of another catalogue and, if they all were admitted, its settings. -/
def merge (self other : Catalog) : Catalog × Option Flaw :=
  match self.insertAll other.definitions with
  | (merged, some flaw) => (merged, some flaw)
  | (merged, none) => ({ merged with settings := other.settings.or merged.settings }, none)

/-- The definition that a name stands for: the one with this qualified name, or else the only one
with this simple name. -/
def lookup (self : Catalog) (name : String) : Except Obstacle (Option Definition) :=
  match self.find? name with
  | some definition => .ok (some definition)
  | none =>
    match self.definitions.filter (·.name == name) with
    | [] => .ok none
    | [definition] => .ok (some definition)
    | several => .error (.ambiguousName name (several.map (·.qualifiedName)))

def isEnumeration (self : Catalog) (name : String) : Bool :=
  match self.lookup name with
  | .ok (some (.enumeration _)) => true
  | _ => false

/-- The qualified form of a name without dots that its module defines; any other name as it is. -/
def qualifyName (self : Catalog) (module name : String) : String :=
  if !Name.isDotted name && self.contains (Name.qualify module name) then
    Name.qualify module name
  else name

/-- A type with every name in it read from inside a module. -/
def qualifyIn (self : Catalog) (module : String) (ty : Ty) : Ty :=
  ty.mapNames (self.qualifyName module)

end Catalog

end Fixture

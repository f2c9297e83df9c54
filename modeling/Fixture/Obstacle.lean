/-!
# What stops a generation

Each obstacle is a cause with its data; the wording is in `message` alone. A failure adds the trail,
the properties on the way from the root to the obstacle.
-/

namespace Fixture

/-- A generic type that is not used the way it is declared. -/
inductive GenericMisuse where
  /-- A parameter reached the place where a type was due. -/
  | unboundParam (param : String)
  /-- A collection applied to another number of types than one. -/
  | elementCount (raw : String)
  /-- A collection named without its element type. -/
  | missingElement (name : String)
  /-- A composite entered with a wrong number of arguments. -/
  | argumentCount (qualified : String) (declared supplied : Nat)
  /-- A composite described with a wrong number of arguments. -/
  | describedCount (qualified : String) (declared : Nat)
  deriving BEq

namespace GenericMisuse

def message : GenericMisuse → String
  | unboundParam param => s!"type parameter `{param}` has no binding here"
  | elementCount raw => s!"`{raw}` takes exactly one element type"
  | missingElement name => s!"`{name}` is missing its element type"
  | argumentCount qualified declared supplied =>
    s!"`{qualified}` declares {declared} type parameter(s) but {supplied} argument(s) were supplied"
  | describedCount qualified declared => s!"`{qualified}` declares {declared} type parameter(s)"

end GenericMisuse

inductive Obstacle where
  /-- A name that is neither simple nor a composite in scope. -/
  | unsupportedType (name : String)
  /-- A property that can be read but not written. -/
  | missingWriter (owner property : String)
  /-- A parameter that its owner does not declare or that got no argument. -/
  | unresolvableParam (owner param : String)
  | malformedGeneric (misuse : GenericMisuse)
  /-- An enumeration without a member to choose. -/
  | emptyEnumeration (qualified : String)
  /-- A simple name of several types. -/
  | ambiguousName (name : String) (candidates : List String)
  /-- A composite that is already being constructed. -/
  | cycle (key : String)
  /-- More composites open at once than allowed. -/
  | tooDeep (limit : Nat)
  deriving BEq

namespace Obstacle

def message : Obstacle → String
  | unsupportedType name => s!"unsupported type `{name}`"
  | missingWriter owner property => s!"no write method for property `{property}` of `{owner}`"
  | unresolvableParam owner param => s!"cannot find type parameter `{param}` of `{owner}`"
  | malformedGeneric misuse => "malformed generic shape: " ++ misuse.message
  | emptyEnumeration qualified => s!"enum `{qualified}` declares no members"
  | ambiguousName name candidates =>
    let listed := ", ".intercalate candidates
    s!"simple name `{name}` is ambiguous, candidates: {listed}"
  | cycle key => s!"cyclic type graph: `{key}` is already being generated on this path"
  | tooDeep limit => s!"recursion limit of {limit} nested values exceeded"

end Obstacle

/-- A property on the way to an obstacle, with the name of the type that declares it. -/
structure Frame where
  owner : String
  property : String
  deriving BEq

/-- An obstacle with the properties that led to it, from the root on. -/
structure Failure where
  obstacle : Obstacle
  trail : List Frame := []
  deriving BEq

namespace Failure

/-- The failure seen from one property further out. -/
def seenFrom (self : Failure) (owner property : String) : Failure :=
  { self with trail := ⟨owner, property⟩ :: self.trail }

/-- The names of the properties from the root to the obstacle. -/
def path (self : Failure) : List String := self.trail.map (·.property)

def message (self : Failure) : String :=
  if self.trail.isEmpty then "generation failed"
  else
    "error when generating property " ++
      " → ".intercalate (self.trail.map fun frame => s!"`{frame.owner}.{frame.property}`")

end Failure

end Fixture

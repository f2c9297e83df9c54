import Fixture.Registry

/-!
# The shape of a property's type

A property is generated by the shape of its type: one literal, a collection with one element, or a
composite. Before that every parameter of the declaring composite is replaced by the argument in its
place.
-/

namespace Fixture

/-- A composite entered with arguments for its parameters, by position. -/
structure Binding where
  owner : Composite
  args : List Ty

namespace Binding

/-- The argument of a parameter. -/
def argument (self : Binding) (param : String) : Except Obstacle Ty :=
  match (self.owner.positionOf? param).bind (self.args[·]?) with
  | some ty => .ok ty
  | none => .error (.unresolvableParam self.owner.qualifiedName param)

/-- A type with every parameter replaced by its argument. -/
def substitute (self : Binding) (ty : Ty) : Except Obstacle Ty := ty.substitute self.argument

end Binding

inductive CollectionKind where
  | list
  | set
  deriving DecidableEq

namespace CollectionKind

/-- The collection that a name means, in whatever module. -/
def ofName? (name : String) : Option CollectionKind :=
  if Name.simple name == "List" then some list
  else if Name.simple name == "Set" then some set
  else none

end CollectionKind

inductive Shape where
  /-- A registered kind or an enumeration. -/
  | simple (name : String)
  | collection (kind : CollectionKind) (element : Ty)
  | composite (raw : String) (args : List Ty)

namespace Shape

/-- The shape of a type without parameters. -/
def ofTy (registry : Registry) (catalog : Catalog) : Ty → Except Obstacle Shape
  | .param param => .error (.malformedGeneric (.unboundParam param))
  | .applied raw args =>
    match CollectionKind.ofName? raw, args with
    | some kind, [element] => .ok (collection kind element)
    | some _, _ => .error (.malformedGeneric (.elementCount raw))
    | none, args => .ok (composite raw args)
  | .named name =>
    if (CollectionKind.ofName? name).isSome then
      .error (.malformedGeneric (.missingElement name))
    else if registry.isSimple catalog name then .ok (simple name)
    else .ok (composite name [])

end Shape

end Fixture

import Fixture.Outcome

/-!
# Describing a type

What the catalogue says about a type, in lines: an enumeration with its members, or a composite with
its parameters or arguments and one line for each property in the order of declaration.
-/

namespace Fixture

namespace Property

/-- The accessors in brackets. -/
def access (self : Property) : String :=
  match self.reader, self.writer with
  | some reader, some writer => s!" ({reader}/{writer})"
  | some reader, none => s!" ({reader}, read-only)"
  | none, some writer => s!" ({writer})"
  | none, none => " (read-only)"

def line (self : Property) (ty : Ty) : String :=
  let shown := ty.display
  s!" * {shown} {self.name}{self.access}\n"

end Property

namespace Composite

/-- The types of the properties as they are shown: as declared, or with arguments for the
parameters. -/
def shownType (self : Composite) (args : List Ty) (property : Property) : Except Obstacle Ty :=
  if args.isEmpty then .ok property.ty else Binding.substitute ⟨self, args⟩ property.ty

/-- The first line: the qualified name with the arguments, or with the parameters where there are
none. -/
def header (self : Composite) (args : List Ty) : String :=
  let shown := if args.isEmpty then self.params else args.map Ty.display
  if shown.isEmpty then self.qualifiedName
  else self.qualifiedName ++ "<" ++ ", ".intercalate shown ++ ">"

def description (self : Composite) (args : List Ty) : Except Obstacle String := do
  if !args.isEmpty && args.length != self.params.length then
    throw (.malformedGeneric (.describedCount self.qualifiedName self.params.length))
  let lines ← self.properties.mapM fun property =>
    return property.line (← self.shownType args property)
  return self.header args ++ "\n" ++ String.join lines

end Composite

namespace Enumeration

def description (self : Enumeration) : String :=
  self.qualifiedName ++ " = " ++ " | ".intercalate self.members ++ "\n"

end Enumeration

/-- The description of the type that a name stands for, with arguments if the type has any. -/
def Catalog.description (catalog : Catalog) (ty : Ty) : Except Obstacle String :=
  let args := match ty with
    | .applied _ args => args
    | _ => []
  match catalog.lookup ty.rawName with
  | .error obstacle => .error obstacle
  | .ok none => .error (.unsupportedType ty.rawName)
  | .ok (some (.enumeration enumeration)) => .ok enumeration.description
  | .ok (some (.composite composite)) => composite.description args

end Fixture

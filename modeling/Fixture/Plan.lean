import Fixture.Shape

/-!
# The plan of a fixture

What is decided before anything is emitted: which composites may be constructed and with which
arguments, how a construction is told from the others on its path, and what type, writer and shape a
property has. All of it depends on the catalogue, the registry and the settings alone, never on the
supply of values.
-/

namespace Fixture

/-- What a construction works from. -/
structure Plan where
  catalog : Catalog
  registry : Registry
  settings : Settings
  /-- The module whose composites may be constructed. -/
  scope : String

namespace Plan

variable (plan : Plan)

/-- A module is in a scope if it is the scope or lies beneath it; the empty scope holds all
modules. -/
def inScope (scope module : String) : Bool :=
  scope.isEmpty || module == scope || (scope ++ ".").toList.isPrefixOf module.toList

def isSimple (name : String) : Bool := plan.registry.isSimple plan.catalog name

/-- The composite in scope that a name stands for. -/
def composite (name : String) : Except Obstacle Composite :=
  match plan.catalog.lookup name with
  | .error obstacle => .error obstacle
  | .ok (some (.composite c)) =>
    if inScope plan.scope c.module then .ok c else .error (.unsupportedType name)
  | .ok _ => .error (.unsupportedType name)

/-- What tells one construction on the path from another: the composite and its arguments. -/
def key (composite : Composite) (args : List Ty) : String :=
  composite.qualifiedName ++ Ty.displayArgs args

/-- A composite may be entered with these arguments: as many as it declares, or none, and not again
on the same path. -/
def mayEnter (composite : Composite) (args : List Ty) (path : List String) :
    Except Obstacle Unit :=
  if !args.isEmpty && args.length != composite.params.length then
    .error (.malformedGeneric
      (.argumentCount composite.qualifiedName composite.params.length args.length))
  else if path.contains (key composite args) then .error (.cycle (key composite args))
  else .ok ()

/-- The composite that a name stands for, if it may be entered. -/
def enter (raw : String) (args : List Ty) (path : List String) : Except Obstacle Composite :=
  match plan.composite raw with
  | .error obstacle => .error obstacle
  | .ok composite => (mayEnter composite args path).map fun _ => composite

/-- The type of a property in a composite entered with arguments: names are read from the module of
the composite, parameters from the arguments. -/
def propertyType (owner : Composite) (args : List Ty) (property : Property) :
    Except Obstacle Ty :=
  Binding.substitute ⟨owner, args⟩ (plan.catalog.qualifyIn owner.module property.ty)

/-- The declared type is a parameter itself. -/
def declaresParam (property : Property) : Bool :=
  match property.ty with
  | .param _ => true
  | _ => false

/-- What has to be known of a property before it gets a value: its writer and its shape. -/
def writerAndShape (owner : Composite) (args : List Ty) (property : Property) :
    Except Obstacle (String × Shape) :=
  match property.writer with
  | none => .error (.missingWriter owner.qualifiedName property.name)
  | some writer =>
    match plan.propertyType owner args property with
    | .error obstacle => .error obstacle
    | .ok ty => (Shape.ofTy plan.registry plan.catalog ty).map fun shape => (writer, shape)

/-- A property put in front of the first whose name is not smaller. -/
def place (property : Property) : List Property → List Property
  | [] => [property]
  | first :: rest =>
    if property.name ≤ first.name then property :: first :: rest
    else first :: place property rest

/-- The properties of a composite in the order in which they get their values: that of their
names. -/
def inOrder (composite : Composite) : List Property := composite.properties.foldr place []

theorem perm_place (property : Property) (properties : List Property) :
    (place property properties).Perm (property :: properties) := by
  induction properties with
  | nil => exact .refl _
  | cons first rest ih =>
    by_cases hle : property.name ≤ first.name
    · rw [place, if_pos hle]
    · rw [place, if_neg hle]
      exact (ih.cons first).trans (.swap property first rest)

theorem perm_inOrder (composite : Composite) :
    (inOrder composite).Perm composite.properties := by
  unfold inOrder
  induction composite.properties with
  | nil => exact .refl _
  | cons property rest ih => exact (perm_place property _).trans (ih.cons property)

private theorem pairwise_place (property : Property) {properties : List Property}
    (h : properties.Pairwise (·.name ≤ ·.name)) :
    (place property properties).Pairwise (·.name ≤ ·.name) := by
  induction properties with
  | nil => simp [place]
  | cons first rest ih =>
    obtain ⟨hfirst, hrest⟩ := List.pairwise_cons.1 h
    by_cases hle : property.name ≤ first.name
    · rw [place, if_pos hle]
      refine List.pairwise_cons.2 ⟨fun other hother => ?_, h⟩
      rcases List.mem_cons.1 hother with rfl | hmem
      · exact hle
      · exact String.le_trans hle (hfirst other hmem)
    · rw [place, if_neg hle]
      refine List.pairwise_cons.2 ⟨fun other hother => ?_, ih hrest⟩
      rcases List.mem_cons.1 ((perm_place property rest).mem_iff.1 hother) with rfl | hmem
      · exact (String.le_total _ _).resolve_left hle
      · exact hfirst other hmem

theorem pairwise_inOrder (composite : Composite) :
    (inOrder composite).Pairwise (·.name ≤ ·.name) := by
  unfold inOrder
  induction composite.properties with
  | nil => exact .nil
  | cons property rest ih => exact pairwise_place property ih

end Plan

end Fixture

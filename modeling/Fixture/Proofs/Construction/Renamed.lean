import Fixture.Proofs.Construction.Changed
import Fixture.Proofs.Ty.Renamed

/-!
# The names of parameters

Parameters are told apart by their names only inside the composite that declares them: the argument
of a parameter is found by its position. So other names may be chosen in every composite, as long as
different parameters keep different names, and the fixture stays the same. The names are seen only
in the obstacle of a parameter that got no argument.
-/

namespace Fixture

/-- The parameters that a composite declares, and those that its properties refer to. -/
def Composite.paramNames (owner : Composite) : List String :=
  owner.params ++ owner.properties.flatMap (·.ty.params)

/-- Other names for the parameters of each composite, which is told by its qualified name. -/
abbrev Renaming := (owner param : String) → String

def Property.mapParams (rename : String → String) (property : Property) : Property :=
  { property with ty := property.ty.mapParams rename }

/-- The composite with other names for its parameters. -/
def Composite.renamed (rename : Renaming) (owner : Composite) : Composite :=
  { owner with
    params := owner.params.map (rename owner.qualifiedName)
    properties := owner.properties.map (·.mapParams (rename owner.qualifiedName)) }

/-- Different parameters of a composite keep different names. -/
def Definition.KeepsApart (rename : Renaming) : Definition → Prop
  | composite owner => ∀ first ∈ owner.paramNames, ∀ second ∈ owner.paramNames,
      rename owner.qualifiedName first = rename owner.qualifiedName second → first = second
  | enumeration _ => True

instance (rename : Renaming) :
    (definition : Definition) → Decidable (definition.KeepsApart rename)
  | .composite owner => inferInstanceAs (Decidable (∀ first ∈ owner.paramNames,
      ∀ second ∈ owner.paramNames,
        rename owner.qualifiedName first = rename owner.qualifiedName second → first = second))
  | .enumeration _ => .isTrue trivial

namespace Catalog

/-- The catalogue with other names for the parameters of its composites. -/
def renamed (rename : Renaming) (catalog : Catalog) : Catalog :=
  catalog.mapComposites (·.renamed rename)

def KeepsApart (catalog : Catalog) (rename : Renaming) : Prop :=
  ∀ definition ∈ catalog.definitions, definition.KeepsApart rename

end Catalog

/-- The obstacle as it is told with the new names: only a parameter that stands for nothing is told
by its name. -/
def Obstacle.renamed (rename : Renaming) : Obstacle → Obstacle
  | unresolvableParam owner param => unresolvableParam owner (rename owner param)
  | obstacle => obstacle

def Failure.renamed (rename : Renaming) (failure : Failure) : Failure :=
  { failure with obstacle := failure.obstacle.renamed rename }

def Outcome.renamed (rename : Renaming) (outcome : Outcome) : Outcome :=
  { outcome with result := outcome.result.mapError (·.renamed rename) }

variable {rename : Renaming}

theorem Composite.inPlace_renamed : InPlace (renamed rename) :=
  ⟨fun _ => rfl, fun _ => rfl, fun _ => List.length_map _⟩

theorem Obstacle.renamed_of_ofParam {obstacle : Obstacle} (h : obstacle.ofParam = false) :
    obstacle.renamed rename = obstacle := by
  cases obstacle with
  | unresolvableParam => cases h
  | _ => rfl

/-- Obstacles that are the same but for the name of a parameter. -/
def Obstacle.Renames (rename : Renaming) (obstacle other : Obstacle) : Prop :=
  obstacle.renamed rename = other

/-! ### The order of the properties -/

namespace Plan

variable {change : Property → Property} (h : ∀ property, (change property).name = property.name)

include h

theorem place_map (property : Property) (properties : List Property) :
    place (change property) (properties.map change) = (place property properties).map change := by
  induction properties with
  | nil => rfl
  | cons first rest ih =>
    rw [List.map_cons, place, place, h, h]
    split
    · rfl
    · rw [ih, List.map_cons]

theorem inOrder_map (owner : Composite) {other : Composite}
    (hproperties : other.properties = owner.properties.map change) :
    inOrder other = (inOrder owner).map change := by
  rw [inOrder, inOrder, hproperties]
  induction owner.properties with
  | nil => rfl
  | cons property rest ih => rw [List.map_cons, List.foldr_cons, List.foldr_cons, ih, place_map h]

end Plan

/-! ### The argument of a parameter -/

theorem idxOf?_map {f : String → String} {names : List String} {name : String}
    (h : ∀ other ∈ names, f other = f name → other = name) :
    (names.map f).idxOf? (f name) = names.idxOf? name := by
  induction names with
  | nil => rfl
  | cons first rest ih =>
    obtain ⟨hfirst, hrest⟩ := List.forall_mem_cons.1 h
    have hsame : (f first == f name) = (first == name) := by
      rw [Bool.eq_iff_iff, beq_iff_eq, beq_iff_eq]
      exact ⟨hfirst, congrArg f⟩
    rw [List.map_cons, List.idxOf?_cons, List.idxOf?_cons, hsame, ih hrest]

section

variable {owner : Composite} {args : List Ty}

theorem argument_renamed (h : Definition.KeepsApart rename (.composite owner)) {param : String}
    (hparam : param ∈ owner.paramNames) :
    Binding.argument ⟨owner.renamed rename, args⟩ (rename owner.qualifiedName param) =
      (Binding.argument ⟨owner, args⟩ param).mapError (·.renamed rename) := by
  have hposition : (owner.renamed rename).positionOf? (rename owner.qualifiedName param) =
      owner.positionOf? param := by
    apply idxOf?_map
    intro other hother
    exact h other (List.mem_append_left _ hother) param hparam
  rw [Binding.argument, Binding.argument, hposition]
  cases (owner.positionOf? param).bind (args[·]?) with
  | some ty => rfl
  | none => rfl

theorem mem_paramNames_of_property {property : Property} (hproperty : property ∈ owner.properties)
    {param : String} (hparam : param ∈ property.ty.params) : param ∈ owner.paramNames := by
  apply List.mem_append_right
  exact List.mem_flatMap.2 ⟨property, hproperty, hparam⟩

variable {plan mirror : Plan} {property : Property}

theorem Plan.propertyType_renamed (h : Definition.KeepsApart rename (.composite owner))
    (hproperty : property ∈ owner.properties)
    (hread : mirror.catalog.qualifyIn = plan.catalog.qualifyIn) :
    mirror.propertyType (owner.renamed rename) args
        (property.mapParams (rename owner.qualifiedName)) =
      (plan.propertyType owner args property).mapError (·.renamed rename) := by
  have hbuilt : (plan.catalog.qualifyIn owner.module property.ty).Built (fun _ => True)
      (· ∈ property.ty.params) := property.ty.built_params.mapNames
  have hsame : mirror.catalog.qualifyIn owner.module
      (property.ty.mapParams (rename owner.qualifiedName)) =
        (plan.catalog.qualifyIn owner.module property.ty).mapParams
          (rename owner.qualifiedName) := by
    rw [hread]
    exact Ty.mapNames_mapParams _ _ _
  rw [propertyType, propertyType, Binding.substitute, Binding.substitute]
  show (mirror.catalog.qualifyIn owner.module
    (property.ty.mapParams (rename owner.qualifiedName))).substitute _ = _
  rw [hsame]
  apply hbuilt.substitute_mapParams
  intro param hparam
  exact argument_renamed h (mem_paramNames_of_property hproperty hparam)

end

/-! ### Fixtures -/

variable {catalog : Catalog} {registry : Registry} {settings : Settings} {scope : String}

theorem Plan.treats_renamed {plan mirror : Plan}
    (h : plan.NamesMirror (catalog.changing (·.renamed rename) (Obstacle.Renames rename)) mirror)
    (hread : mirror.catalog.qualifyIn = plan.catalog.qualifyIn) {owner : Composite}
    (hapart : Definition.KeepsApart rename (.composite owner)) {args : List Ty}
    (hargs : ∀ arg ∈ args, arg.ParamFree) {property : Property}
    (hproperty : property ∈ owner.properties) :
    plan.Treats (catalog.changing (·.renamed rename) (Obstacle.Renames rename)) mirror owner
      (owner.renamed rename) args property
      (property.mapParams (rename owner.qualifiedName)) where
  name := rfl
  declaresParam := by
    rw [declaresParam, declaresParam, Property.mapParams]
    cases property.ty <;> rfl
  shape := by
    refine h.writerAndShape rfl rfl rfl ?_
    rw [propertyType_renamed hapart hproperty hread]
    cases htype : plan.propertyType owner args property with
    | error obstacle => exact .error rfl
    | ok ty =>
      have hread : (plan.catalog.qualifyIn owner.module property.ty).Built (fun _ => True)
          fun _ => True := Ty.built _
      exact .ok ⟨rfl, hread.substitute (fun _ _ arg harg => hargs arg (mem_of_argument harg)) htype⟩

theorem Catalog.mirrors_renamed (h : catalog.KeepsApart rename) :
    Plan.Mirrors (catalog.changing (·.renamed rename) (Obstacle.Renames rename))
      ⟨catalog, registry, settings, scope⟩ ⟨catalog.renamed rename, registry, settings, scope⟩ := by
  have hplace : Composite.InPlace (·.renamed rename) := Composite.inPlace_renamed
  have hself : ∀ obstacle : Obstacle, obstacle.ofParam = false →
      Obstacle.Renames rename obstacle obstacle := fun _ => Obstacle.renamed_of_ofParam
  refine hplace.mirrors hself rfl fun owner args howner hargs => ?_
  intro plan mirror
  have hname : ∀ property : Property,
      (property.mapParams (rename owner.qualifiedName)).name = property.name := fun _ => rfl
  have horder : Plan.inOrder (owner.renamed rename) =
      (Plan.inOrder owner).map (·.mapParams (rename owner.qualifiedName)) :=
    Plan.inOrder_map hname owner rfl
  rw [horder, Plan.due, Plan.due, List.filter_map, List.forall₂_map_right_iff]
  refine List.forall₂_same.2 fun property hdue => ?_
  have hproperty : property ∈ owner.properties :=
    (Plan.perm_inOrder owner).mem_iff.1 (List.mem_of_mem_filter hdue)
  exact Plan.treats_renamed (hplace.namesMirror hself) (hplace.qualifyIn catalog) (h _ howner) hargs
    hproperty

theorem Outcome.Agree.eq_renamed {outcome other : Outcome}
    (h : outcome.Agree (Obstacle.Renames rename) other) : other = outcome.renamed rename := by
  obtain ⟨result, events, supply⟩ := outcome
  obtain ⟨_, _, _⟩ := other
  obtain ⟨hresult, rfl, rfl⟩ := h
  cases hresult with
  | ok hvalue =>
    rw [hvalue]
    rfl
  | @error failure second halike =>
    obtain ⟨obstacle, trail⟩ := failure
    obtain ⟨_, _⟩ := second
    obtain ⟨rfl, rfl⟩ := halike
    rfl

/-- Where the parameters of composites get other names, and different ones of a composite keep
different names, a fixture has the same events, it ends with the same root variable or the same
failure, and the same supply is left; only a parameter that got no argument is told by its new
name. -/
theorem fixture_renamed {catalog : Catalog} {rename : Renaming} (h : catalog.KeepsApart rename)
    (registry : Registry) (settings : Settings) (supply : Supply) (root : String) :
    (catalog.renamed rename).fixture registry settings supply root =
      (catalog.fixture registry settings supply root).renamed rename :=
  (Outcome.agree_fixture (fun _ => Catalog.mirrors_renamed h) rfl trivial supply).eq_renamed

/-- Boxes and pairs have parameters of the same name. It is said what is in the box, but not what
is in the pair beside it. -/
def pairs : Catalog where
  definitions := [
    .enumeration ⟨"Day", "pl", ["MONDAY"]⟩,
    .composite ⟨"Shelf", "pl", [], [
      ⟨"box", .applied "Box" [.applied "Pair" [.named "Day", .named "Day"]], none, some "setBox"⟩,
      ⟨"pair", .named "Pair", none, some "setPair"⟩]⟩,
    .composite ⟨"Box", "pl", ["T"], [⟨"content", .param "T", none, some "setContent"⟩]⟩,
    .composite ⟨"Pair", "pl", ["T", "U"], [
      ⟨"left", .param "T", none, some "setLeft"⟩,
      ⟨"right", .param "U", none, some "setRight"⟩]⟩]

/-- The parameters of a pair change their names. -/
def swapped : Renaming
  | "pl.Pair", "T" => "U"
  | "pl.Pair", "U" => "T"
  | _, param => param

theorem fixture_renamed_pairs :
    pairs.KeepsApart swapped ∧
      (pairs.fixture .builtin {} (.seeded 0) "pl.Shelf").result =
        .error ⟨.unresolvableParam "pl.Pair" "T", [⟨"Shelf", "pair"⟩, ⟨"Pair", "left"⟩]⟩ ∧
      ((pairs.renamed swapped).fixture .builtin {} (.seeded 0) "pl.Shelf").result =
        .error ⟨.unresolvableParam "pl.Pair" "U", [⟨"Shelf", "pair"⟩, ⟨"Pair", "left"⟩]⟩ ∧
      (pairs.renamed swapped).fixture .builtin {} (.seeded 0) "pl.Shelf" =
        (pairs.fixture .builtin {} (.seeded 0) "pl.Shelf").renamed swapped := by
  have hapart : ∀ definition ∈ pairs.definitions, definition.KeepsApart swapped := by
    decide +kernel
  refine ⟨hapart, by decide +kernel, by decide +kernel, ?_⟩
  exact fixture_renamed hapart .builtin {} (.seeded 0) "pl.Shelf"

end Fixture

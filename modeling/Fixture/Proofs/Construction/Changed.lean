import Fixture.Proofs.Construction.Agreement

/-!
# Catalogues with changed composites

Each composite of a catalogue is changed in some way that keeps its name and its module. Then every
name stands for what it stood for, with the change, and it is read from inside a module as before;
the candidates for an ambiguous name are the same. So two constructions, one from the catalogue and
one from the changed catalogue, agree if the properties of a composite and those of the changed one
are treated in the same way.
-/

namespace Fixture

def Definition.mapComposite (change : Composite → Composite) : Definition → Definition
  | .composite owner => .composite (change owner)
  | .enumeration kind => .enumeration kind

/-- The catalogue with all its composites changed. -/
def Catalog.mapComposites (change : Composite → Composite) (catalog : Catalog) : Catalog :=
  { catalog with definitions := catalog.definitions.map (·.mapComposite change) }

/-- A change that leaves a composite where it is found, with as many parameters. -/
structure Composite.InPlace (change : Composite → Composite) : Prop where
  name : ∀ owner, (change owner).name = owner.name
  module : ∀ owner, (change owner).module = owner.module
  params : ∀ owner, (change owner).params.length = owner.params.length

/-- Every name can be asked for, and composites of the catalogue correspond to the changed ones. -/
def Catalog.changing (catalog : Catalog) (change : Composite → Composite)
    (alike : Obstacle → Obstacle → Prop) : Likeness where
  known _ := True
  alike := alike
  paired owner other := other = change owner ∧ .composite owner ∈ catalog.definitions

namespace Composite.InPlace

variable {change : Composite → Composite} (h : InPlace change)

include h

theorem qualifiedName (owner : Composite) : (change owner).qualifiedName = owner.qualifiedName := by
  rw [Composite.qualifiedName, Composite.qualifiedName, h.name, h.module]

theorem name_mapComposite (definition : Definition) :
    (definition.mapComposite change).name = definition.name := by
  cases definition with
  | composite owner => exact h.name owner
  | enumeration => rfl

theorem qualifiedName_mapComposite (definition : Definition) :
    (definition.mapComposite change).qualifiedName = definition.qualifiedName := by
  cases definition with
  | composite owner => exact h.qualifiedName owner
  | enumeration => rfl

variable (catalog : Catalog)

theorem contains (qualified : String) :
    (catalog.mapComposites change).contains qualified = catalog.contains qualified := by
  rw [Catalog.contains, Catalog.contains, Catalog.mapComposites, List.any_map]
  congr 1
  funext definition
  show ((definition.mapComposite change).qualifiedName == qualified) = _
  rw [h.qualifiedName_mapComposite]

theorem qualifyIn : (catalog.mapComposites change).qualifyIn = catalog.qualifyIn :=
  Catalog.qualifyIn_congr (h.contains catalog)

theorem find? (qualified : String) :
    (catalog.mapComposites change).find? qualified =
      (catalog.find? qualified).map (·.mapComposite change) := by
  rw [Catalog.find?, Catalog.find?, Catalog.mapComposites, List.find?_map]
  congr 2
  funext definition
  show ((definition.mapComposite change).qualifiedName == qualified) = _
  rw [h.qualifiedName_mapComposite]

theorem filter_name (name : String) :
    (catalog.mapComposites change).definitions.filter (·.name == name) =
      (catalog.definitions.filter (·.name == name)).map (·.mapComposite change) := by
  rw [Catalog.mapComposites, List.filter_map]
  congr 2
  funext definition
  show ((definition.mapComposite change).name == name) = _
  rw [h.name_mapComposite]

theorem lookup (name : String) :
    (catalog.mapComposites change).lookup name =
      (catalog.lookup name).map (·.map (·.mapComposite change)) := by
  rw [Catalog.lookup, Catalog.lookup, h.find?, h.filter_name]
  cases catalog.find? name with
  | some definition => rfl
  | none =>
    generalize catalog.definitions.filter (·.name == name) = found
    rcases found with _ | ⟨first, _ | ⟨second, rest⟩⟩
    · rfl
    · rfl
    · have hnames : ∀ definitions : List Definition,
          (definitions.map (·.mapComposite change)).map (·.qualifiedName) =
            definitions.map (·.qualifiedName) := by
        intro definitions
        rw [List.map_map]
        exact List.map_congr_left fun definition _ => h.qualifiedName_mapComposite definition
      show Except.error (Obstacle.ambiguousName name _) = Except.error _
      exact congrArg _ (congrArg _ (hnames (first :: second :: rest)))

variable {catalog} {alike : Obstacle → Obstacle → Prop} {registry : Registry}
  {settings changed : Settings} {scope : String}

theorem finds (hself : ∀ obstacle : Obstacle, obstacle.ofParam = false → alike obstacle obstacle)
    (name : String) :
    (catalog.changing change alike).Finds (catalog.lookup name)
      ((catalog.mapComposites change).lookup name) := by
  rw [h.lookup]
  rcases hlookup : catalog.lookup name with obstacle | _ | owner | enumeration
  · apply Likeness.Finds.several
    exact hself obstacle (obstacle.ofParam_of_ofName (Catalog.ofName_of_lookup hlookup))
  · exact .nothing
  · exact .composite ⟨rfl, Catalog.mem_of_lookup hlookup⟩
  · exact .enumeration enumeration

theorem namesMirror
    (hself : ∀ obstacle : Obstacle, obstacle.ofParam = false → alike obstacle obstacle) :
    Plan.NamesMirror (catalog.changing change alike) ⟨catalog, registry, settings, scope⟩
      ⟨catalog.mapComposites change, registry, changed, scope⟩ where
  registry := rfl
  alike_self := hself
  lookup name _ := h.finds hself name

theorem mirrors
    (hself : ∀ obstacle : Obstacle, obstacle.ofParam = false → alike obstacle obstacle)
    (hdepth : settings.maxDepth = changed.maxDepth)
    (hdue : ∀ owner args, .composite owner ∈ catalog.definitions →
      (∀ arg ∈ args, arg.Ground (catalog.changing change alike).known) →
      let plan : Plan := ⟨catalog, registry, settings, scope⟩
      let mirror : Plan := ⟨catalog.mapComposites change, registry, changed, scope⟩
      List.Forall₂ (plan.Treats (catalog.changing change alike) mirror owner (change owner) args)
        (plan.due (Plan.inOrder owner)) (mirror.due (Plan.inOrder (change owner)))) :
    Plan.Mirrors (catalog.changing change alike) ⟨catalog, registry, settings, scope⟩
      ⟨catalog.mapComposites change, registry, changed, scope⟩ where
  toNamesMirror := h.namesMirror hself
  maxDepth := hdepth
  scope := rfl
  name owner _ hpaired := by rw [hpaired.1, h.name]
  module owner _ hpaired := by rw [hpaired.1, h.module]
  params owner _ hpaired := by rw [hpaired.1, h.params]
  due owner other args hpaired hargs := by
    obtain ⟨rfl, howner⟩ := hpaired
    exact hdue owner args howner hargs

end Composite.InPlace

end Fixture

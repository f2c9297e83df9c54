import Fixture.Proofs.Construction.Agreement

/-!
# Types that do not matter

All names that a construction ever looks up are the root, the names in the types of properties, and
these names as they read from inside a module. Types of other names may be added to a catalogue:
every lookup finds what it found before, and the fixture stays the same.
-/

namespace Fixture

namespace Catalog

variable (catalog : Catalog) (root : String)

def composites : List Composite :=
  catalog.definitions.filterMap fun
    | .composite owner => some owner
    | .enumeration _ => none

/-- The names in the types of all properties. -/
def namesInTypes : List String :=
  catalog.composites.flatMap fun owner => owner.properties.flatMap (·.ty.names)

/-- The root, the names in types, and those without dots as they read in the modules of
composites. -/
def mentioned : List String :=
  root :: catalog.namesInTypes ++
    catalog.composites.flatMap fun owner =>
      (catalog.namesInTypes.filter fun name => !Name.isDotted name).map (Name.qualify owner.module)

variable {catalog root}

theorem mem_composites {owner : Composite} :
    owner ∈ catalog.composites ↔ .composite owner ∈ catalog.definitions := by
  rw [composites, List.mem_filterMap]
  constructor
  · rintro ⟨_ | _, hmem, heq⟩
    · cases heq
      exact hmem
    · cases heq
  · exact fun hmem => ⟨_, hmem, rfl⟩

theorem mem_mentioned_of_type {name : String} (hname : name ∈ catalog.namesInTypes) :
    name ∈ catalog.mentioned root := by
  apply List.mem_append_left
  exact List.mem_cons_of_mem _ hname

theorem mem_mentioned_of_module {name : String} {owner : Composite}
    (hname : name ∈ catalog.namesInTypes) (hdotted : Name.isDotted name = false)
    (howner : .composite owner ∈ catalog.definitions) :
    Name.qualify owner.module name ∈ catalog.mentioned root := by
  apply List.mem_append_right
  refine List.mem_flatMap.2 ⟨owner, mem_composites.2 howner, List.mem_map_of_mem ?_⟩
  exact List.mem_filter.2 ⟨hname, by rw [hdotted]; rfl⟩

/-- A catalogue with further types, none of which has a name that is mentioned. -/
structure Widens (catalog : Catalog) (root : String) (added : List Definition) (wide : Catalog) :
    Prop where
  definitions : wide.definitions = catalog.definitions ++ added
  name : ∀ definition ∈ added, definition.name ∉ catalog.mentioned root
  qualifiedName : ∀ definition ∈ added, definition.qualifiedName ∉ catalog.mentioned root

namespace Widens

variable {added : List Definition} {wide : Catalog} (h : catalog.Widens root added wide)
  {name : String}

include h

theorem lookup (hname : name ∈ catalog.mentioned root) :
    wide.lookup name = catalog.lookup name := by
  have hfind : added.find? (·.qualifiedName == name) = none := by
    rw [List.find?_eq_none]
    intro definition hdefinition heq
    have heq : definition.qualifiedName = name := by simpa using heq
    exact h.qualifiedName definition hdefinition (heq ▸ hname)
  have hfilter : added.filter (·.name == name) = [] := by
    rw [List.filter_eq_nil_iff]
    intro definition hdefinition heq
    have heq : definition.name = name := by simpa using heq
    exact h.name definition hdefinition (heq ▸ hname)
  rw [Catalog.lookup, Catalog.lookup, find?, find?, h.definitions, List.find?_append, hfind,
    Option.or_none, List.filter_append, hfilter, List.append_nil]

theorem contains (hname : name ∈ catalog.mentioned root) :
    wide.contains name = catalog.contains name := by
  have hnone : added.any (·.qualifiedName == name) = false := by
    rw [List.any_eq_false]
    intro definition hdefinition heq
    have heq : definition.qualifiedName = name := by simpa using heq
    exact h.qualifiedName definition hdefinition (heq ▸ hname)
  rw [Catalog.contains, Catalog.contains, h.definitions, List.any_append, hnone, Bool.or_false]

variable {owner : Composite} (howner : .composite owner ∈ catalog.definitions)

include howner

theorem qualifyName (hname : name ∈ catalog.namesInTypes) :
    catalog.qualifyName owner.module name = wide.qualifyName owner.module name := by
  rw [Catalog.qualifyName, Catalog.qualifyName]
  cases hdotted : Name.isDotted name with
  | true => rfl
  | false => rw [h.contains (mem_mentioned_of_module hname hdotted howner)]

end Widens

theorem mem_mentioned_qualifyName {owner : Composite} {name : String}
    (howner : .composite owner ∈ catalog.definitions) (hname : name ∈ catalog.namesInTypes) :
    catalog.qualifyName owner.module name ∈ catalog.mentioned root := by
  rw [Catalog.qualifyName]
  cases hdotted : Name.isDotted name with
  | true => exact mem_mentioned_of_type hname
  | false =>
    split
    · exact mem_mentioned_of_module hname hdotted howner
    · exact mem_mentioned_of_type hname

theorem names_built {owner : Composite} (howner : .composite owner ∈ catalog.definitions)
    {property : Property} (hproperty : property ∈ owner.properties) :
    property.ty.Built (· ∈ catalog.namesInTypes) fun _ => True := by
  refine property.ty.built_names.imp (fun name hname => ?_) fun _ => id
  refine List.mem_flatMap.2 ⟨owner, mem_composites.2 howner, ?_⟩
  exact List.mem_flatMap.2 ⟨property, hproperty, hname⟩

end Catalog

/-- The names that are mentioned can be asked for, and everything else has to be the same. -/
def Catalog.likeness (catalog : Catalog) (root : String) : Likeness where
  known name := name ∈ catalog.mentioned root
  alike := Eq
  paired owner other := owner = other ∧ .composite owner ∈ catalog.definitions

variable {catalog wide other merged : Catalog} {root : String} {added : List Definition}
  {registry : Registry} {settings : Settings} {scope : String}

theorem Catalog.Widens.namesMirror (h : catalog.Widens root added wide) :
    Plan.NamesMirror (catalog.likeness root) ⟨catalog, registry, settings, scope⟩
      ⟨wide, registry, settings, scope⟩ where
  registry := rfl
  alike_self _ _ := rfl
  lookup name hname := by
    show Likeness.Finds _ (catalog.lookup name) (wide.lookup name)
    rw [h.lookup hname]
    exact .self _ (fun owner hfound => ⟨rfl, mem_of_lookup hfound⟩) fun _ _ => rfl

theorem Catalog.Widens.mirrors (h : catalog.Widens root added wide) :
    Plan.Mirrors (catalog.likeness root) ⟨catalog, registry, settings, scope⟩
      ⟨wide, registry, settings, scope⟩ where
  toNamesMirror := h.namesMirror
  maxDepth := rfl
  scope := rfl
  name _ _ hpaired := congrArg _ hpaired.1
  module _ _ hpaired := congrArg _ hpaired.1
  params _ _ hpaired := congrArg (fun owner => owner.params.length) hpaired.1
  due owner _ args hpaired hargs := by
    obtain ⟨rfl, howner⟩ := hpaired
    refine List.forall₂_same.2 fun property hdue => ?_
    have hproperty : property ∈ owner.properties :=
      (Plan.perm_inOrder owner).mem_iff.1 (List.mem_of_mem_filter hdue)
    have hnames := catalog.names_built howner hproperty
    refine h.namesMirror.treats (fun _ => rfl) hargs rfl rfl ?_ ?_
    · exact Ty.Built.mapNames_congr (hnames.imp (fun _ => h.qualifyName howner) fun _ => id)
    · refine Ty.Built.mapNames (hnames.imp (fun _ hname => ?_) fun _ => id)
      exact mem_mentioned_qualifyName howner hname

/-- Types that are merged into a catalogue do not change a fixture if none of their names is
mentioned. -/
theorem fixture_merge (hmerge : catalog.merge other = (merged, none))
    (hapart : ∀ definition ∈ other.definitions,
      definition.name ∉ catalog.mentioned root ∧ definition.qualifiedName ∉ catalog.mentioned root)
    (registry : Registry) (settings : Settings) (supply : Supply) :
    merged.fixture registry settings supply root =
      catalog.fixture registry settings supply root := by
  have hwidens : catalog.Widens root other.definitions merged :=
    ⟨Catalog.definitions_of_merge hmerge, fun definition hdefinition => (hapart _ hdefinition).1,
      fun definition hdefinition => (hapart _ hdefinition).2⟩
  have hroot : root ∈ catalog.mentioned root := List.mem_cons_self ..
  exact (Outcome.agree_fixture (fun _ => hwidens.mirrors) rfl hroot supply).eq.symm

/-- A shelf with a box and the day on which it was bought. -/
def boughtShelf : Catalog where
  definitions := [
    .composite ⟨"Shelf", "pl", [], [
      ⟨"bought", .named "java.util.Date", none, some "setBought"⟩,
      ⟨"box", .named "Box", none, some "setBox"⟩]⟩,
    .composite ⟨"Box", "pl", [], []⟩]

/-- Another shelf and another date. -/
def strangers : Catalog where
  definitions := [
    .composite ⟨"Date", "diary", [], [⟨"with", .named "Person", none, none⟩]⟩,
    .enumeration ⟨"Shelf", "coast", ["ICE"]⟩]

theorem fixture_merge_strangers :
    boughtShelf.merge strangers = (⟨boughtShelf.definitions ++ strangers.definitions, none⟩, none) ∧
      (boughtShelf.fixture .builtin {} (.seeded 0) "pl.Shelf").result = .ok "shelf" ∧
      (boughtShelf.merge strangers).1.fixture .builtin {} (.seeded 0) "pl.Shelf" =
        boughtShelf.fixture .builtin {} (.seeded 0) "pl.Shelf" := by
  have hmerge : boughtShelf.merge strangers =
      (⟨boughtShelf.definitions ++ strangers.definitions, none⟩, none) := rfl
  have hapart : ∀ definition ∈ strangers.definitions,
      definition.name ∉ boughtShelf.mentioned "pl.Shelf" ∧
        definition.qualifiedName ∉ boughtShelf.mentioned "pl.Shelf" := by decide +kernel
  have hresult : (boughtShelf.fixture .builtin {} (.seeded 0) "pl.Shelf").result = .ok "shelf" := by
    decide +kernel
  refine ⟨hmerge, hresult, ?_⟩
  rw [hmerge]
  exact fixture_merge hmerge hapart .builtin {} (.seeded 0)

end Fixture

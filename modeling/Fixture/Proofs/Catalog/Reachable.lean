import Fixture.Catalog.Load
import Fixture.Proofs.Ty.Rules
import Mathlib.Data.List.Nodup

/-!
# Reachable catalogues

A catalogue comes about by insertions and by taking over the types of other catalogues, starting
from none, from a list of definitions or from a document. Whatever the way, and whatever was refused
on it, the definitions are without flaw and have different qualified names.
-/

namespace Fixture

/-- The types of all properties follow rules. -/
def Definition.Follows (rules : Ty.Rules) : Definition → Prop
  | composite c => ∀ property ∈ c.properties, property.ty.Follows rules True
  | enumeration _ => True

namespace Catalog

def Follows (catalog : Catalog) (rules : Ty.Rules) : Prop :=
  ∀ definition ∈ catalog.definitions, definition.Follows rules

/-- The catalogues that can be built. A refused insertion leaves a catalogue as it is; of a refused
merge, what came before the refused definition stays. -/
inductive Reachable : Catalog → Prop
  | empty : Reachable empty
  | ofDefinitions {definitions : List Definition} {catalog : Catalog}
      (h : ofDefinitions definitions = .ok catalog) : Reachable catalog
  | ofJson {bytes : List UInt8} {catalog : Catalog} (h : ofJson bytes = .ok catalog) :
      Reachable catalog
  | insert {catalog larger : Catalog} {definition : Definition} (hcatalog : Reachable catalog)
      (h : catalog.insert definition = .ok larger) : Reachable larger
  | merge {catalog other : Catalog} (hcatalog : Reachable catalog) (hother : Reachable other) :
      Reachable (catalog.merge other).1

structure Lawful (catalog : Catalog) : Prop where
  flawless : ∀ definition ∈ catalog.definitions, flawOf? definition = none
  nodup : (catalog.definitions.map (·.qualifiedName)).Nodup

/-! ### Single definitions -/

theorem firstRepeated?_eq_none_iff (seen names : List String) :
    firstRepeated? seen names = none ↔ names.Nodup ∧ ∀ name ∈ names, name ∉ seen := by
  induction names generalizing seen with
  | nil => simp [firstRepeated?]
  | cons name rest ih =>
    by_cases hseen : name ∈ seen
    · have hfirst : firstRepeated? seen (name :: rest) = some name := by
        rw [firstRepeated?, if_pos (List.contains_iff_mem.2 hseen)]
      simp [hfirst, hseen]
    · rw [firstRepeated?, if_neg (mt List.contains_iff_mem.1 hseen), ih]
      simp only [List.nodup_cons, List.mem_append, List.mem_singleton, not_or, List.forall_mem_cons]
      constructor
      · rintro ⟨hnodup, hrest⟩
        exact ⟨⟨fun hname => (hrest name hname).2 rfl, hnodup⟩, hseen, fun other hother =>
          (hrest other hother).1⟩
      · rintro ⟨⟨hname, hnodup⟩, -, hrest⟩
        exact ⟨hnodup, fun other hother => ⟨hrest other hother, fun heq => hname (heq ▸ hother)⟩⟩

theorem nodup_of_flawless {composite : Composite} (h : flawOf? (.composite composite) = none) :
    composite.params.Nodup ∧ (composite.properties.map (·.name)).Nodup := by
  rw [flawOf?] at h
  split at h
  · cases h
  · cases hparams : firstRepeated? [] composite.params with
    | some param => simp [hparams] at h
    | none =>
      cases hproperties : firstRepeated? [] (composite.properties.map (·.name)) with
      | some property => simp [hparams, hproperties] at h
      | none =>
        exact ⟨((firstRepeated?_eq_none_iff _ _).1 hparams).1,
          ((firstRepeated?_eq_none_iff _ _).1 hproperties).1⟩

/-! ### Every catalogue is lawful -/

variable {catalog larger other : Catalog} {definition : Definition}

theorem contains_iff {qualified : String} :
    catalog.contains qualified = true ↔ qualified ∈ catalog.definitions.map (·.qualifiedName) := by
  simp [contains]

theorem find?_eq_none_iff {qualified : String} :
    catalog.find? qualified = none ↔ catalog.contains qualified = false := by
  simp [find?, contains]

theorem qualifyIn_congr (h : ∀ qualified, catalog.contains qualified = other.contains qualified) :
    catalog.qualifyIn = other.qualifyIn := by
  have hnames : catalog.qualifyName = other.qualifyName := by
    funext module name
    rw [qualifyName, qualifyName, h]
  funext module ty
  rw [qualifyIn, qualifyIn, hnames]

theorem insert_ok_iff :
    catalog.insert definition = .ok larger ↔
      flawOf? definition = none ∧ catalog.contains definition.qualifiedName = false ∧
        larger = { catalog with definitions := catalog.definitions ++ [definition] } := by
  unfold insert
  split
  · next hflaw => simp [hflaw]
  · next hflaw =>
    cases hcontains : catalog.contains definition.qualifiedName <;> simp [hflaw, eq_comm]

theorem definitions_of_insertAll {definitions : List Definition}
    (h : catalog.insertAll definitions = (larger, none)) :
    larger.definitions = catalog.definitions ++ definitions := by
  induction definitions generalizing catalog with
  | nil =>
    cases h
    exact (List.append_nil _).symm
  | cons definition rest ih =>
    rw [insertAll] at h
    split at h
    · cases h
    · next middle hmiddle =>
      obtain ⟨-, -, rfl⟩ := insert_ok_iff.1 hmiddle
      rw [ih h, List.append_assoc]
      rfl

theorem definitions_of_merge {merged : Catalog} (h : catalog.merge other = (merged, none)) :
    merged.definitions = catalog.definitions ++ other.definitions := by
  unfold merge at h
  split at h
  · cases h
  · next middle hinsert =>
    cases h
    show middle.definitions = _
    exact definitions_of_insertAll hinsert

theorem ofDefinitions_ok {definitions : List Definition}
    (h : ofDefinitions definitions = .ok catalog) : catalog = (empty.insertAll definitions).1 := by
  unfold ofDefinitions at h
  split at h
  · next hinsert =>
    cases h
    rw [hinsert]
  · cases h

theorem ofJson_ok {bytes : List UInt8} (h : ofJson bytes = .ok catalog) :
    ∃ (document : Document) (definitions : List Definition),
      document.types.mapM (·.definition) = .ok definitions ∧
        catalog = { (empty.insertAll definitions).1 with settings := document.settings } := by
  unfold ofJson ofDocument at h
  split at h
  · cases h
  · split at h
    · cases h
    · next hdefinitions =>
      split at h
      · cases h
      · next hcatalog =>
        cases h
        exact ⟨_, _, hdefinitions, by rw [← ofDefinitions_ok hcatalog]⟩

namespace Lawful

theorem empty : Lawful empty := ⟨by simp [Catalog.empty], by simp [Catalog.empty]⟩

theorem insert (hcatalog : catalog.Lawful) (h : catalog.insert definition = .ok larger) :
    larger.Lawful := by
  obtain ⟨hflaw, hnew, rfl⟩ := insert_ok_iff.1 h
  constructor
  · intro other hother
    rcases List.mem_append.1 hother with hmem | hmem
    · exact hcatalog.flawless other hmem
    · rwa [List.mem_singleton.1 hmem]
  · have hnew : definition.qualifiedName ∉ catalog.definitions.map (·.qualifiedName) := by
      rw [← contains_iff, hnew]
      exact Bool.false_ne_true
    rw [List.map_append]
    refine List.nodup_append.2 ⟨hcatalog.nodup, List.nodup_singleton _, ?_⟩
    intro name hname other hother heq
    have hother : other = definition.qualifiedName := List.mem_singleton.1 hother
    exact hnew (hother ▸ heq ▸ hname)

theorem insertAll (hcatalog : catalog.Lawful) (definitions : List Definition) :
    (catalog.insertAll definitions).1.Lawful := by
  induction definitions generalizing catalog with
  | nil => exact hcatalog
  | cons definition rest ih =>
    rw [Catalog.insertAll]
    split
    · exact hcatalog
    · next larger hlarger => exact ih (hcatalog.insert hlarger)

theorem withSettings (hcatalog : catalog.Lawful) (settings : Option Settings) :
    Lawful { catalog with settings } :=
  ⟨hcatalog.flawless, hcatalog.nodup⟩

theorem merge (hcatalog : catalog.Lawful) (other : Catalog) : (catalog.merge other).1.Lawful := by
  have hmerged := hcatalog.insertAll other.definitions
  rw [Catalog.merge]
  split
  · next hinsert => rwa [hinsert] at hmerged
  · next hinsert =>
    rw [hinsert] at hmerged
    exact hmerged.withSettings _

theorem ofDefinitions {definitions : List Definition}
    (h : ofDefinitions definitions = .ok catalog) : catalog.Lawful := by
  rw [ofDefinitions_ok h]
  exact empty.insertAll definitions

theorem ofJson {bytes : List UInt8} (h : ofJson bytes = .ok catalog) : catalog.Lawful := by
  obtain ⟨document, definitions, -, rfl⟩ := ofJson_ok h
  exact (empty.insertAll definitions).withSettings _

end Lawful

theorem Reachable.lawful (h : catalog.Reachable) : catalog.Lawful := by
  induction h with
  | empty => exact .empty
  | ofDefinitions h => exact .ofDefinitions h
  | ofJson h => exact .ofJson h
  | insert _ h ih => exact ih.insert h
  | merge _ _ ih => exact ih.merge _

theorem Lawful.find?_qualifiedName (hcatalog : catalog.Lawful)
    (hdefinition : definition ∈ catalog.definitions) :
    catalog.find? definition.qualifiedName = some definition := by
  rw [find?]
  cases hfind : catalog.definitions.find? (·.qualifiedName == definition.qualifiedName) with
  | none => simpa using List.find?_eq_none.1 hfind definition hdefinition
  | some other =>
    have hname : other.qualifiedName = definition.qualifiedName := by
      simpa using List.find?_some hfind
    rw [List.inj_on_of_nodup_map hcatalog.nodup (List.mem_of_find?_eq_some hfind) hdefinition hname]

/-- The answers to a name, each with what it tells about the definitions. A qualified name goes
before names inside modules. -/
inductive Answers (catalog : Catalog) (name : String) : Except Obstacle (Option Definition) → Prop
  | whole {definition : Definition} (hmem : definition ∈ catalog.definitions)
      (hname : definition.qualifiedName = name) : Answers catalog name (.ok (some definition))
  | nothing (hwhole : catalog.contains name = false)
      (hnamed : ∀ definition ∈ catalog.definitions, definition.name ≠ name) :
      Answers catalog name (.ok none)
  | only {definition : Definition} (hwhole : catalog.contains name = false)
      (hmem : definition ∈ catalog.definitions) (hname : definition.name = name)
      (hunique : ∀ other ∈ catalog.definitions, other.name = name → other = definition) :
      Answers catalog name (.ok (some definition))
  | several {candidates : List String} (hwhole : catalog.contains name = false)
      (hcandidates : ∀ qualified, qualified ∈ candidates ↔
        ∃ definition ∈ catalog.definitions, definition.name = name ∧
          definition.qualifiedName = qualified) :
      Answers catalog name (.error (.ambiguousName name candidates))

theorem answers_lookup (catalog : Catalog) (name : String) :
    catalog.Answers name (catalog.lookup name) := by
  have hnamed : ∀ definition, definition ∈ catalog.definitions.filter (·.name == name) ↔
      definition ∈ catalog.definitions ∧ definition.name = name := by
    intro definition
    rw [List.mem_filter, beq_iff_eq]
  unfold lookup
  split
  · next hfind =>
    exact .whole (List.mem_of_find?_eq_some hfind) (by simpa using List.find?_some hfind)
  · next hfind =>
    have hwhole := find?_eq_none_iff.1 hfind
    split
    · next hfilter =>
      rw [hfilter] at hnamed
      exact .nothing hwhole fun definition hmem hname =>
        List.not_mem_nil ((hnamed definition).2 ⟨hmem, hname⟩)
    · next definition hfilter =>
      simp only [hfilter, List.mem_singleton] at hnamed
      obtain ⟨hmem, hname⟩ := (hnamed definition).1 rfl
      exact .only hwhole hmem hname fun other hother heq => (hnamed other).2 ⟨hother, heq⟩
    · refine .several hwhole fun qualified => ?_
      simp only [List.mem_map, hnamed, and_assoc]

theorem mem_of_lookup {name : String} (h : catalog.lookup name = .ok (some definition)) :
    definition ∈ catalog.definitions := by
  have hanswers := catalog.answers_lookup name
  rw [h] at hanswers
  cases hanswers with
  | whole hmem => exact hmem
  | only _ hmem => exact hmem

theorem lookup_error {name : String} {obstacle : Obstacle}
    (h : catalog.lookup name = .error obstacle) :
    ∃ candidates, obstacle = .ambiguousName name candidates := by
  have hanswers := catalog.answers_lookup name
  rw [h] at hanswers
  cases hanswers
  exact ⟨_, rfl⟩

end Catalog

end Fixture

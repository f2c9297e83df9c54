import Fixture.Proofs.Construction.Agreement
import Mathlib.Data.List.Sort

/-!
# The order of declarations

Neither the order of the types in a catalogue nor that of the properties in a composite matters to a
fixture. Names are unique, so what a name stands for does not depend on what comes first; and the
properties of a composite get their values in the order of their names. Only where a name is
ambiguous the order is seen: it is that of the candidates.
-/

namespace Fixture

/-- The same composite with its properties in another order. -/
structure Composite.Reordered (owner other : Composite) : Prop where
  name : owner.name = other.name
  module : owner.module = other.module
  params : owner.params = other.params
  properties : owner.properties.Perm other.properties

theorem Composite.Reordered.qualifiedName {owner other : Composite} (h : owner.Reordered other) :
    owner.qualifiedName = other.qualifiedName := by
  rw [Composite.qualifiedName, Composite.qualifiedName, h.module, h.name]

namespace Definition

inductive Reordered : Definition → Definition → Prop
  | composite {owner other : Composite} (h : owner.Reordered other) :
      Reordered (.composite owner) (.composite other)
  | enumeration (enumeration : Enumeration) :
      Reordered (.enumeration enumeration) (.enumeration enumeration)

/-- The same definitions in another order, with the properties of each in another order. -/
def ReorderedAll (definitions others : List Definition) : Prop :=
  ∃ middle, definitions.Perm middle ∧ List.Forall₂ Reordered middle others

variable {definition other : Definition} {definitions others : List Definition}

theorem Reordered.name (h : definition.Reordered other) : definition.name = other.name := by
  cases h with
  | composite h => exact h.name
  | enumeration => rfl

theorem Reordered.qualifiedName (h : definition.Reordered other) :
    definition.qualifiedName = other.qualifiedName := by
  cases h with
  | composite h => exact h.qualifiedName
  | enumeration => rfl

namespace ReorderedAll

theorem exists_of_mem (h : ReorderedAll definitions others) (hmem : definition ∈ definitions) :
    ∃ other ∈ others, definition.Reordered other := by
  obtain ⟨middle, hperm, hmiddle⟩ := h
  have hmem : definition ∈ middle := hperm.mem_iff.1 hmem
  clear hperm
  induction hmiddle with
  | nil => cases hmem
  | @cons first second rest _ hfirst _ ih =>
    rcases List.mem_cons.1 hmem with rfl | hrest
    · exact ⟨second, List.mem_cons_self .., hfirst⟩
    · obtain ⟨other, hother, hreordered⟩ := ih hrest
      exact ⟨other, List.mem_cons_of_mem _ hother, hreordered⟩

theorem qualifiedNames (h : ReorderedAll definitions others) :
    (definitions.map (·.qualifiedName)).Perm (others.map (·.qualifiedName)) := by
  obtain ⟨middle, hperm, hmiddle⟩ := h
  have hmiddle : middle.map (·.qualifiedName) = others.map (·.qualifiedName) := by
    clear hperm
    induction hmiddle with
    | nil => rfl
    | cons hfirst _ ih => rw [List.map_cons, List.map_cons, hfirst.qualifiedName, ih]
  rw [← hmiddle]
  exact hperm.map _

theorem named (h : ReorderedAll definitions others) (name : String) :
    ReorderedAll (definitions.filter (·.name == name)) (others.filter (·.name == name)) := by
  obtain ⟨middle, hperm, hmiddle⟩ := h
  refine ⟨middle.filter (·.name == name), hperm.filter _, List.rel_filter ?_ hmiddle⟩
  intro definition other hreordered
  show (definition.name == name) = true ↔ (other.name == name) = true
  rw [hreordered.name]

end ReorderedAll

end Definition

/-- The same obstacle, with the candidates for an ambiguous name in another order. -/
inductive Obstacle.Reordered : Obstacle → Obstacle → Prop
  | self (obstacle : Obstacle) : Reordered obstacle obstacle
  | candidates (name : String) {candidates others : List String} (h : candidates.Perm others) :
      Reordered (.ambiguousName name candidates) (.ambiguousName name others)

namespace Catalog

/-- The same types in another order, with the properties of each in another order. -/
def Reordered (catalog other : Catalog) : Prop :=
  Definition.ReorderedAll catalog.definitions other.definitions

/-- Every name can be asked for, and composites correspond that are of different order. -/
def reordering (catalog : Catalog) : Likeness where
  known _ := True
  alike := Obstacle.Reordered
  paired owner other := owner.Reordered other ∧ .composite owner ∈ catalog.definitions

variable {catalog other : Catalog}

theorem finds_of_reordered {definition second : Definition}
    (hmem : definition ∈ catalog.definitions) (hreordered : definition.Reordered second) :
    catalog.reordering.Finds (.ok (some definition)) (.ok (some second)) := by
  cases hreordered with
  | composite howner => exact .composite ⟨howner, hmem⟩
  | enumeration enumeration => exact .enumeration enumeration

namespace Reordered

variable (h : catalog.Reordered other)

include h

theorem contains (qualified : String) : catalog.contains qualified = other.contains qualified := by
  rw [Bool.eq_iff_iff, contains_iff, contains_iff]
  exact h.qualifiedNames.mem_iff

theorem qualifyIn (module : String) : catalog.qualifyIn module = other.qualifyIn module :=
  congrFun (qualifyIn_congr h.contains) module

theorem find?_none {name : String} (hnone : catalog.find? name = none) :
    other.find? name = none := by
  rw [find?_eq_none_iff, ← h.contains]
  exact find?_eq_none_iff.1 hnone

theorem find?_some (hother : other.Lawful) {name : String} {definition : Definition}
    (hsome : catalog.find? name = some definition) :
    ∃ second, other.find? name = some second ∧ definition.Reordered second := by
  have hname : definition.qualifiedName = name := by simpa using List.find?_some hsome
  obtain ⟨second, hsecond, hreordered⟩ := h.exists_of_mem (List.mem_of_find?_eq_some hsome)
  refine ⟨second, ?_, hreordered⟩
  rw [← hname, hreordered.qualifiedName]
  exact hother.find?_qualifiedName hsecond

theorem finds (hother : other.Lawful) (name : String) :
    catalog.reordering.Finds (catalog.lookup name) (other.lookup name) := by
  cases hfind : catalog.find? name with
  | some definition =>
    obtain ⟨second, hsecond, hreordered⟩ := h.find?_some hother hfind
    rw [lookup, lookup, hfind, hsecond]
    exact finds_of_reordered (List.mem_of_find?_eq_some hfind) hreordered
  | none =>
    rw [lookup, lookup, hfind, h.find?_none hfind]
    -- There are as many definitions of that name in either order: none, one, or several.
    have hnamed := h.named name
    have hmem : ∀ definition ∈ catalog.definitions.filter (·.name == name),
        definition ∈ catalog.definitions := fun _ => List.mem_of_mem_filter
    generalize catalog.definitions.filter (·.name == name) = found at hnamed hmem ⊢
    generalize other.definitions.filter (·.name == name) = others at hnamed ⊢
    have hcandidates := hnamed.qualifiedNames
    have hlength := hcandidates.length_eq
    rw [List.length_map, List.length_map] at hlength
    match found, others, hlength with
    | [], [], _ => exact .nothing
    | [definition], [second], _ =>
      obtain ⟨_, hmember, hreordered⟩ := hnamed.exists_of_mem (List.mem_singleton_self _)
      obtain rfl := List.mem_singleton.1 hmember
      exact finds_of_reordered (hmem _ (List.mem_singleton_self _)) hreordered
    | _ :: _ :: _, _ :: _ :: _, _ => exact .several (.candidates name hcandidates)

end Reordered

end Catalog

namespace Plan

theorem inOrder_eq {owner other : Composite} (h : owner.Reordered other)
    (hnodup : (owner.properties.map (·.name)).Nodup) : inOrder owner = inOrder other := by
  have hother : (other.properties.map (·.name)).Nodup :=
    (h.properties.map (·.name)).nodup_iff.1 hnodup
  refine List.Perm.eq_of_pairwise ?_ (ascending_inOrder hnodup) (ascending_inOrder hother) ?_
  · intro property twin _ _ hlt hgt
    exact absurd (String.lt_trans hlt hgt) (String.lt_irrefl _)
  · exact (perm_inOrder owner).trans (h.properties.trans (perm_inOrder other).symm)

end Plan

section

variable {catalog other : Catalog} {registry : Registry} {settings : Settings} {scope : String}

theorem Catalog.Reordered.namesMirror (h : catalog.Reordered other) (hother : other.Lawful) :
    Plan.NamesMirror catalog.reordering ⟨catalog, registry, settings, scope⟩
      ⟨other, registry, settings, scope⟩ where
  registry := rfl
  alike_self obstacle _ := .self obstacle
  lookup name _ := h.finds hother name

theorem Catalog.Reordered.mirrors (h : catalog.Reordered other) (hcatalog : catalog.Lawful)
    (hother : other.Lawful) :
    Plan.Mirrors catalog.reordering ⟨catalog, registry, settings, scope⟩
      ⟨other, registry, settings, scope⟩ where
  toNamesMirror := h.namesMirror hother
  maxDepth := rfl
  scope := rfl
  name _ _ hpaired := hpaired.1.name
  module _ _ hpaired := hpaired.1.module
  params _ _ hpaired := congrArg List.length hpaired.1.params
  due owner second args hpaired hargs := by
    obtain ⟨hreordered, howner⟩ := hpaired
    have hnodup := (nodup_of_flawless (hcatalog.flawless _ howner)).2
    rw [Plan.inOrder_eq hreordered hnodup]
    refine List.forall₂_same.2 fun property _ => ?_
    have hread : catalog.qualifyIn owner.module property.ty =
        other.qualifyIn second.module property.ty := by
      rw [h.qualifyIn, hreordered.module]
    exact (h.namesMirror hother).treats .self hargs hreordered.qualifiedName hreordered.params hread
      (Ty.built _)

end

/-- The fixtures of two catalogues with the same types in another order have the same events, and
with them the same text, and leave the same supply. They end with the same root variable, or with
the same obstacle on the same trail, up to the order of the candidates for an ambiguous name. -/
theorem fixture_reordered {catalog other : Catalog} (hcatalog : catalog.Reachable)
    (hother : other.Reachable) (h : catalog.Reordered other) (registry : Registry)
    (settings : Settings) (supply : Supply) (root : String) :
    let fixture := catalog.fixture registry settings supply root
    let second := other.fixture registry settings supply root
    fixture.events = second.events ∧ fixture.text = second.text ∧ fixture.supply = second.supply ∧
      Matching (Failure.Alike Obstacle.Reordered) Eq fixture.result second.result := by
  intro fixture second
  have hagree : Outcome.Agree Obstacle.Reordered fixture second :=
    Outcome.agree_fixture (fun _ => h.mirrors hcatalog.lawful hother.lawful) rfl trivial supply
  exact ⟨hagree.events, congrArg render hagree.events, hagree.supply, hagree.result⟩

/-- A diary for days of which there are two. -/
def diary : Catalog where
  definitions := [
    .composite ⟨"Diary", "pl", [], [
      ⟨"owner", .named "String", none, some "setOwner"⟩,
      ⟨"since", .named "Day", none, some "setSince"⟩]⟩,
    .composite ⟨"Day", "sky", [], []⟩,
    .enumeration ⟨"Day", "week", ["MONDAY"]⟩]

def turnedDiary : Catalog where
  definitions := [
    .enumeration ⟨"Day", "week", ["MONDAY"]⟩,
    .composite ⟨"Day", "sky", [], []⟩,
    .composite ⟨"Diary", "pl", [], [
      ⟨"since", .named "Day", none, some "setSince"⟩,
      ⟨"owner", .named "String", none, some "setOwner"⟩]⟩]

theorem diary_reordered : diary.Reordered turnedDiary := by
  refine ⟨diary.definitions.reverse, (List.reverse_perm _).symm, ?_⟩
  refine .cons (.enumeration _) (.cons (.composite ?_) (.cons (.composite ?_) .nil))
  · exact ⟨rfl, rfl, rfl, .refl _⟩
  · exact ⟨rfl, rfl, rfl, .swap _ _ _⟩

theorem fixture_reordered_diary :
    (diary.fixture .builtin {} (.seeded 0) "Diary").result =
        .error ⟨.ambiguousName "Day" ["sky.Day", "week.Day"], [⟨"Diary", "since"⟩]⟩ ∧
      (turnedDiary.fixture .builtin {} (.seeded 0) "Diary").result =
        .error ⟨.ambiguousName "Day" ["week.Day", "sky.Day"], [⟨"Diary", "since"⟩]⟩ ∧
      (diary.fixture .builtin {} (.seeded 0) "Diary").events =
        (turnedDiary.fixture .builtin {} (.seeded 0) "Diary").events := by
  have hdiary : diary.Reachable :=
    .ofDefinitions (rfl : Catalog.ofDefinitions diary.definitions = .ok diary)
  have hturned : turnedDiary.Reachable :=
    .ofDefinitions (rfl : Catalog.ofDefinitions turnedDiary.definitions = .ok turnedDiary)
  refine ⟨by decide +kernel, by decide +kernel, ?_⟩
  exact (fixture_reordered hdiary hturned diary_reordered .builtin {} (.seeded 0) "Diary").1

end Fixture

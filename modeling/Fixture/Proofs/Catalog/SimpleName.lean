import Fixture.Proofs.Catalog.Loaded
import Fixture.Proofs.Ty.Display

/-!
# Simple names in a catalogue

A catalogue finds a definition by the name that it has inside its module; everything else takes for
its simple name what follows the last dot of its qualified name. The two are the same unless there
are dots in the name inside the module. A document can bring such names: a dotted name is split at
its last dot when it stands alone, but is kept as it is beside a module of its own.
-/

namespace Fixture

namespace TypeEntry

variable {entry : TypeEntry} {definition : Definition}

theorem split_of_definition (h : entry.definition = .ok definition) :
    entry.split = (definition.module, definition.name) := by
  unfold TypeEntry.definition at h
  dsimp only at h
  split at h
  · cases h
  · cases h
    rfl
  · split at h
    · cases h
    · cases h
      rfl

theorem isDotted_name_iff (h : entry.definition = .ok definition) :
    Name.isDotted definition.name = true ↔
      entry.module ≠ "" ∧ Name.isDotted entry.name = true := by
  have hname : definition.name = entry.split.2 := by rw [split_of_definition h]
  rw [hname, split]
  by_cases hmodule : entry.module = ""
  · by_cases hdotted : Name.isDotted entry.name = true
    · simp [hmodule, hdotted, Name.isDotted_simple]
    · simp [hmodule, hdotted]
  · simp [hmodule]

theorem module_of_definition (h : entry.definition = .ok definition) (hmodule : entry.module ≠ "") :
    definition.module = entry.module := by
  have hsplit : definition.module = entry.split.1 := by rw [split_of_definition h]
  rw [hsplit, split]
  simp [hmodule]

end TypeEntry

namespace Catalog

/-- A name leads to a definition: it stands for it, or it is the whole name of another one, or it
could stand for several and the definition is among them. -/
inductive LeadsTo (catalog : Catalog) (name : String) (definition : Definition) : Prop
  | only (h : catalog.lookup name = .ok (some definition))
  | whole {other : Definition} (h : catalog.lookup name = .ok (some other))
      (hother : other.qualifiedName = name)
  | among {candidates : List String}
      (h : catalog.lookup name = .error (.ambiguousName name candidates))
      (hcandidate : definition.qualifiedName ∈ candidates)

variable {catalog : Catalog} {definition : Definition} {name : String}

theorem lookup_of_contains (h : catalog.contains name = true) :
    ∃ other, catalog.lookup name = .ok (some other) ∧ other.qualifiedName = name := by
  have hanswers := catalog.answers_lookup name
  generalize catalog.lookup name = answer at hanswers
  cases hanswers with
  | whole _ hname => exact ⟨_, rfl, hname⟩
  | nothing hwhole => simp [hwhole] at h
  | only hwhole => simp [hwhole] at h
  | several hwhole => simp [hwhole] at h

theorem leadsTo_name (hdefinition : definition ∈ catalog.definitions) :
    catalog.LeadsTo definition.name definition := by
  have hanswers := catalog.answers_lookup definition.name
  generalize hlookup : catalog.lookup definition.name = answer at hanswers
  cases hanswers with
  | whole _ hname => exact .whole hlookup hname
  | nothing _ hnamed => exact absurd rfl (hnamed definition hdefinition)
  | only _ _ _ hunique =>
    obtain rfl := hunique definition hdefinition rfl
    exact .only hlookup
  | several _ hcandidates =>
    exact .among hlookup ((hcandidates _).2 ⟨definition, hdefinition, rfl, rfl⟩)

theorem Lawful.leadsTo_iff (hcatalog : catalog.Lawful)
    (hdefinition : definition ∈ catalog.definitions) :
    catalog.LeadsTo name definition ↔ definition.name = name ∨ catalog.contains name = true := by
  constructor
  · intro h
    have hanswers := catalog.answers_lookup name
    cases h with
    | only h =>
      rw [h] at hanswers
      cases hanswers with
      | whole hmem hname => exact .inr (contains_iff.2 (hname ▸ List.mem_map_of_mem hmem))
      | only _ _ hname => exact .inl hname
    | whole h hother => exact .inr (contains_iff.2 (hother ▸ List.mem_map_of_mem (mem_of_lookup h)))
    | among h hcandidate =>
      rw [h] at hanswers
      cases hanswers with
      | several _ hcandidates =>
        obtain ⟨other, hmem, hname, hqualified⟩ := (hcandidates _).1 hcandidate
        have heq : other = definition :=
          List.inj_on_of_nodup_map hcatalog.nodup hmem hdefinition hqualified
        exact .inl (heq ▸ hname)
  · rintro (rfl | hcontains)
    · exact leadsTo_name hdefinition
    · obtain ⟨other, hlookup, hother⟩ := lookup_of_contains hcontains
      exact .whole hlookup hother

/-- In a catalogue from documents, the simple part of a qualified name leads to its definition if
there are no dots in the name inside the module. With dots there, which takes a module, it does not,
unless it is the whole name of another definition. -/
theorem leadsTo_simple (hcatalog : catalog.Loaded)
    (hdefinition : definition ∈ catalog.definitions) :
    (catalog.LeadsTo (Name.simple definition.qualifiedName) definition ↔
      Name.isDotted definition.name = false ∨
        catalog.contains (Name.simple definition.qualifiedName) = true) ∧
    (Name.isDotted definition.name = true → definition.module ≠ "") := by
  constructor
  · have hname : definition.name = Name.simple definition.qualifiedName ↔
        Name.isDotted definition.name = false := by
      rw [Definition.qualifiedName, Name.simple_qualify]
      constructor
      · intro h
        rw [h]
        exact Name.isDotted_simple _
      · exact fun h => (Name.simple_of_not_dotted h).symm
    rw [hcatalog.reachable.lawful.leadsTo_iff hdefinition, hname]
  · intro hdotted
    obtain ⟨entry, hentry⟩ := hcatalog.exists_entry definition hdefinition
    obtain ⟨hmodule, -⟩ := (TypeEntry.isDotted_name_iff hentry).1 hdotted
    rw [TypeEntry.module_of_definition hentry hmodule]
    exact hmodule

/-- A box and its lid, which is named inside the box, beside their module. -/
def nestedText : String :=
  "\x7b\"types\":[\x7b\"name\":\"pl.Box\"\x7d,\x7b\"module\":\"pl\",\"name\":\"Box.Lid\"\x7d]\x7d"

theorem exists_nested :
    ∃ catalog box lid, ofJson nestedText.toUTF8.toList = .ok catalog ∧
      catalog.definitions = [box, lid] ∧ box.module = "pl" ∧ box.name = "Box" ∧
        lid.module = "pl" ∧ lid.name = "Box.Lid" := by
  have hread : (match ofJson nestedText.toUTF8.toList with
      | .ok catalog => catalog.definitions.map fun each => (each.module, each.name)
      | .error _ => []) = [("pl", "Box"), ("pl", "Box.Lid")] := by decide +kernel
  split at hread
  · next catalog hcatalog =>
    obtain ⟨box, rest, hdefinitions, hbox, hrest⟩ := List.map_eq_cons_iff.1 hread
    obtain ⟨lid, rest, rfl, hlid, hnone⟩ := List.map_eq_cons_iff.1 hrest
    cases List.map_eq_nil_iff.1 hnone
    obtain ⟨hboxModule, hboxName⟩ := Prod.mk.inj hbox
    obtain ⟨hlidModule, hlidName⟩ := Prod.mk.inj hlid
    exact ⟨catalog, box, lid, hcatalog, hdefinitions, hboxModule, hboxName, hlidModule, hlidName⟩
  · cases hread

theorem leadsTo_simple_nested :
    ∃ catalog box, ofJson nestedText.toUTF8.toList = .ok catalog ∧ box ∈ catalog.definitions ∧
      box.qualifiedName = "pl.Box" ∧ catalog.LeadsTo (Name.simple box.qualifiedName) box := by
  obtain ⟨catalog, box, lid, hcatalog, hdefinitions, hmodule, hname, -⟩ := exists_nested
  have hmem : box ∈ catalog.definitions := hdefinitions ▸ List.mem_cons_self ..
  have hplain : Name.isDotted box.name = false := by
    rw [hname]
    decide
  obtain ⟨hleads, -⟩ := leadsTo_simple (.ofJson hcatalog) hmem
  refine ⟨catalog, box, hcatalog, hmem, ?_, hleads.2 (.inl hplain)⟩
  rw [Definition.qualifiedName, hmodule, hname]
  decide

/-- The dotted name beside a module is known by no simple name. -/
theorem lookup_nested :
    ∃ catalog lid, ofJson nestedText.toUTF8.toList = .ok catalog ∧ lid ∈ catalog.definitions ∧
      lid.qualifiedName = "pl.Box.Lid" ∧ Name.simple lid.qualifiedName = "Lid" ∧
        catalog.lookup "Lid" = .ok none := by
  obtain ⟨catalog, box, lid, hcatalog, hdefinitions, hbox, hboxName, hlid, hlidName⟩ :=
    exists_nested
  have hqualified : box.qualifiedName = "pl.Box" := by
    rw [Definition.qualifiedName, hbox, hboxName]
    decide
  have hnested : lid.qualifiedName = "pl.Box.Lid" := by
    rw [Definition.qualifiedName, hlid, hlidName]
    decide
  refine ⟨catalog, lid, hcatalog, ?_, hnested, by rw [hnested]; decide, ?_⟩
  · rw [hdefinitions]
    exact List.mem_cons_of_mem _ (List.mem_singleton_self lid)
  · simp [lookup, find?, hdefinitions, hqualified, hnested, hboxName, hlidName]

end Catalog

end Fixture

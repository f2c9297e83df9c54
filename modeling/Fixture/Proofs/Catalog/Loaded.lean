import Fixture.Proofs.Catalog.Reachable
import Fixture.Proofs.Except
import Fixture.Proofs.Ty.Contents
import Fixture.Proofs.Ty.Parsed

/-!
# Catalogues from documents

A catalogue that was read from a document, or put together from several, is reachable. The types of
its properties follow all rules that the names in texts follow, and have no parameters but those of
their composites.
-/

namespace Fixture

variable {rules : Ty.Rules}

/-- The parameters in the types of a composite are its own. -/
def Definition.Declares : Definition → Prop
  | composite c => ∀ property ∈ c.properties, property.ty.Built (fun _ => True) (· ∈ c.params)
  | enumeration _ => True

theorem PropertyEntry.exists_of_property {entry : PropertyEntry} {params : List String}
    {property : Property} (h : entry.property params = .ok property) :
    ∃ ty, Ty.parse entry.ty = .ok ty ∧ property.ty = ty.bindParams params := by
  unfold PropertyEntry.property at h
  split at h
  · cases h
  · next ty hparse =>
    cases h
    exact ⟨ty, hparse, rfl⟩

theorem TypeEntry.exists_of_definition {entry : TypeEntry} {composite : Composite}
    (h : entry.definition = .ok (.composite composite)) {property : Property}
    (hproperty : property ∈ composite.properties) :
    ∃ text ty, Ty.parse text = .ok ty ∧ property.ty = ty.bindParams composite.params := by
  unfold TypeEntry.definition at h
  dsimp only at h
  split at h
  · cases h
  · cases h
  · split at h
    · cases h
    · next hproperties =>
      cases h
      obtain ⟨source, -, hsource⟩ := exists_of_mem_mapM hproperties hproperty
      exact ⟨_, PropertyEntry.exists_of_property hsource⟩

theorem TypeEntry.definition_follows (hrules : rules.Textual) {entry : TypeEntry}
    {definition : Definition} (h : entry.definition = .ok definition) :
    definition.Follows rules := by
  cases definition with
  | enumeration => trivial
  | composite composite =>
    intro property hproperty
    obtain ⟨text, ty, hparse, hty⟩ := TypeEntry.exists_of_definition h hproperty
    rw [hty]
    exact (Ty.follows_of_parse hrules hparse).bindParams composite.params

theorem TypeEntry.definition_declares {entry : TypeEntry} {definition : Definition}
    (h : entry.definition = .ok definition) : definition.Declares := by
  cases definition with
  | enumeration => trivial
  | composite composite =>
    intro property hproperty
    obtain ⟨text, ty, hparse, hty⟩ := TypeEntry.exists_of_definition h hproperty
    have hfree : ty.ParamFree := (Ty.follows_of_parse Ty.Rules.textual_proper hparse).paramFree
    rw [hty]
    exact (hfree.bindParams composite.params).imp (fun _ => id) fun _ hname =>
      hname.resolve_right id

namespace Catalog

/-- The catalogues that come from documents. -/
inductive Loaded : Catalog → Prop
  | ofJson {bytes : List UInt8} {catalog : Catalog} (h : ofJson bytes = .ok catalog) :
      Loaded catalog
  | merge {catalog other : Catalog} (hcatalog : Loaded catalog) (hother : Loaded other) :
      Loaded (catalog.merge other).1

variable {catalog : Catalog}

theorem Loaded.reachable (h : catalog.Loaded) : catalog.Reachable := by
  induction h with
  | ofJson h => exact .ofJson h
  | merge _ _ ihcatalog ihother => exact .merge ihcatalog ihother

theorem mem_of_insertAll (catalog : Catalog) (definitions : List Definition) :
    (catalog.insertAll definitions).1.definitions ⊆ catalog.definitions ++ definitions := by
  induction definitions generalizing catalog with
  | nil => exact List.subset_append_left _ _
  | cons definition rest ih =>
    rw [insertAll]
    split
    · exact List.subset_append_left _ _
    · next larger hlarger =>
      obtain ⟨-, -, rfl⟩ := insert_ok_iff.1 hlarger
      simpa using ih { catalog with definitions := catalog.definitions ++ [definition] }

theorem merge_definitions (other : Catalog) :
    (catalog.merge other).1.definitions = (catalog.insertAll other.definitions).1.definitions := by
  rw [merge]
  split <;> simp [*]

theorem Loaded.exists_entry (h : catalog.Loaded) :
    ∀ definition ∈ catalog.definitions, ∃ entry : TypeEntry, entry.definition = .ok definition := by
  induction h with
  | ofJson h =>
    obtain ⟨document, definitions, hdefinitions, rfl⟩ := ofJson_ok h
    intro definition hdefinition
    have hmem : definition ∈ empty.definitions ++ definitions := mem_of_insertAll _ _ hdefinition
    obtain ⟨entry, -, hentry⟩ := exists_of_mem_mapM hdefinitions hmem
    exact ⟨entry, hentry⟩
  | merge _ _ ihcatalog ihother =>
    intro definition hdefinition
    rw [merge_definitions] at hdefinition
    rcases List.mem_append.1 (mem_of_insertAll _ _ hdefinition) with hmem | hmem
    · exact ihcatalog definition hmem
    · exact ihother definition hmem

theorem Loaded.follows (hrules : rules.Textual) (h : catalog.Loaded) : catalog.Follows rules := by
  intro definition hdefinition
  obtain ⟨entry, hentry⟩ := h.exists_entry definition hdefinition
  exact TypeEntry.definition_follows hrules hentry

theorem Loaded.declares (h : catalog.Loaded) :
    ∀ definition ∈ catalog.definitions, definition.Declares := by
  intro definition hdefinition
  obtain ⟨entry, hentry⟩ := h.exists_entry definition hdefinition
  exact TypeEntry.definition_declares hentry

end Catalog

end Fixture

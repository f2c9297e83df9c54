import Fixture.Plan
import Fixture.Proofs.Catalog.Loaded
import Fixture.Proofs.Ty.Display

/-!
# What the key of a construction tells

A key is the qualified name of a composite with the spelling of its arguments behind it. Where the
one can be told from the other, and the names in the arguments stand out, constructions with the
same key are constructions of the same composite, and their arguments differ in nothing but the
modules of names.
-/

namespace Fixture

/-- No angle bracket stands in the name of a definition, and the names in the types of properties
stand out in their spellings. -/
structure Catalog.Legible (catalog : Catalog) : Prop where
  names : ∀ definition ∈ catalog.definitions, '<' ∉ definition.qualifiedName.toList
  types : catalog.Follows .plain

variable {catalog : Catalog}

/-- In a catalogue from documents, only the names of definitions can contain angle brackets. -/
theorem Catalog.Loaded.legible (h : catalog.Loaded)
    (hnames : ∀ definition ∈ catalog.definitions, '<' ∉ definition.qualifiedName.toList) :
    catalog.Legible :=
  ⟨hnames, h.follows Ty.Rules.textual_plain⟩

theorem Catalog.Lawful.composite_inj (hcatalog : catalog.Lawful) {owner other : Composite}
    (howner : .composite owner ∈ catalog.definitions)
    (hother : .composite other ∈ catalog.definitions)
    (h : owner.qualifiedName = other.qualifiedName) : owner = other :=
  Definition.composite.inj (List.inj_on_of_nodup_map hcatalog.nodup howner hother h)

theorem Plan.key_inj {owner other : Composite} {args others : List Ty}
    (howner : '<' ∉ owner.qualifiedName.toList) (hother : '<' ∉ other.qualifiedName.toList)
    (h : key owner args = key other others) :
    owner.qualifiedName = other.qualifiedName ∧ Ty.displayArgs args = Ty.displayArgs others := by
  have hends : ∀ (args : List Ty), ∀ c ∈ (Ty.displayArgs args).toList.head?, c = '<' := by
    intro args c hc
    by_cases hargs : args = []
    · simp [hargs, Ty.displayArgs] at hc
    · rw [Ty.displayArgs_of_ne_nil hargs] at hc
      exact (Option.some.inj hc).symm
  have htext := congrArg String.toList h
  rw [key, key, String.toList_append, String.toList_append] at htext
  have hbefore : ∀ {text : List Char}, '<' ∉ text → ∀ c ∈ text, ¬ c = '<' := by
    rintro text htext c hc rfl
    exact htext hc
  obtain ⟨hname, hargs⟩ :=
    Ty.append_inj_of_ends (hbefore howner) (hbefore hother) (hends args) (hends others) htext
  exact ⟨String.toList_inj.1 hname, String.toList_inj.1 hargs⟩

theorem Catalog.Legible.eq_of_key (hcatalog : catalog.Legible) (hlawful : catalog.Lawful)
    {owner other : Composite} (howner : .composite owner ∈ catalog.definitions)
    (hother : .composite other ∈ catalog.definitions) {args others : List Ty}
    (hargs : ∀ arg ∈ args, arg.Plain) (hothers : ∀ arg ∈ others, arg.Plain)
    (hkey : Plan.key owner args = Plan.key other others) :
    owner = other ∧
      args.map (Ty.mapNames Name.simple) = others.map (Ty.mapNames Name.simple) := by
  have hbracket := hcatalog.names _ howner
  have hbracketOther := hcatalog.names _ hother
  rw [Definition.qualifiedName_composite] at hbracket hbracketOther
  obtain ⟨hname, hspelling⟩ := Plan.key_inj hbracket hbracketOther hkey
  exact ⟨hlawful.composite_inj howner hother hname, Ty.displayArgs_inj hargs hothers hspelling⟩

end Fixture

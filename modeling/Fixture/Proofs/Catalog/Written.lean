import Fixture.Proofs.Catalog.Admission
import Fixture.Proofs.Ty.Written

/-!
# Definitions written down

Definitions can be written into a document entry by entry: the module and the name apart, each type
in full, and an accessor as it is, or not at all if it is the one that beans have. Loading the
document puts every name back in its place, since a name without dots is not taken apart and a plain
name is read as a parameter only where the type has declared it.
-/

namespace Fixture

/-! ### What can be written -/

/-- A composite whose names are told apart, and whose types can be told from their texts. -/
structure Composite.Writable (composite : Composite) : Prop where
  params : composite.params.Nodup
  properties : (composite.properties.map (·.name)).Nodup
  types : ∀ property ∈ composite.properties, property.ty.Writable composite.params

/-- A definition that can be told from its entry. -/
structure Definition.Writable (definition : Definition) : Prop where
  named : definition.name ≠ ""
  undotted : Name.isDotted definition.name = false
  composite : ∀ composite, definition = .composite composite → composite.Writable

/-! ### How it is written -/

/-- An accessor is written as it is, or is left out where it is the customary one. -/
def WritesAccessor (written : Option (Option String)) (accessor customary : Option String) : Prop :=
  written = some accessor ∨ written = none ∧ accessor = customary

/-- The entry spells the property. -/
structure PropertyEntry.Writes (entry : PropertyEntry) (property : Property) : Prop where
  name : entry.name = property.name
  ty : ∃ space, entry.ty = property.ty.written space
  reader : WritesAccessor entry.reader property.reader (some (Property.beanReader property.name))
  writer : WritesAccessor entry.writer property.writer (some (Property.beanWriter property.name))

/-- The entry spells the definition. -/
inductive TypeEntry.Writes (entry : TypeEntry) : Definition → Prop
  | composite {c : Composite} (hmodule : entry.module = c.module) (hname : entry.name = c.name)
      (hparams : entry.params = c.params) {properties : List PropertyEntry}
      (hproperties : entry.properties = some properties)
      (hall : List.Forall₂ PropertyEntry.Writes properties c.properties)
      (hmembers : entry.members = none) : Writes entry (.composite c)
  | enumeration {e : Enumeration} (hmodule : entry.module = e.module) (hname : entry.name = e.name)
      (hparams : entry.params = []) (hproperties : entry.properties = none)
      (hmembers : entry.members = some e.members) : Writes entry (.enumeration e)

/-- The document spells the definitions, in their order. -/
def Document.Writes (document : Document) (definitions : List Definition) : Prop :=
  List.Forall₂ TypeEntry.Writes document.types definitions

deriving instance DecidableEq for Settings

deriving instance DecidableEq for PropertyEntry

deriving instance DecidableEq for TypeEntry

deriving instance DecidableEq for Document

/-! ### Entries that exist -/

def Property.entry (property : Property) : PropertyEntry where
  name := property.name
  ty := property.ty.written Ty.noGap
  reader := some property.reader
  writer := some property.writer

def Definition.entry : Definition → TypeEntry
  | composite c => ⟨c.module, c.name, c.params, some (c.properties.map (·.entry)), none⟩
  | enumeration e => ⟨e.module, e.name, [], none, some e.members⟩

theorem Property.writes_entry (property : Property) : property.entry.Writes property :=
  ⟨rfl, ⟨Ty.noGap, rfl⟩, .inl rfl, .inl rfl⟩

theorem Definition.writes_entry (definition : Definition) :
    definition.entry.Writes definition := by
  cases definition with
  | enumeration e => exact .enumeration rfl rfl rfl rfl rfl
  | composite c =>
    refine .composite rfl rfl rfl rfl ?_ rfl
    exact List.forall₂_map_left_iff.2 (List.forall₂_same.2 fun property _ => property.writes_entry)

/-! ### Reading it back -/

theorem mapM_of_forall₂ {α β ε : Type} {f : α → Except ε β} {relation : α → β → Prop}
    {sources : List α} {results : List β} (h : List.Forall₂ relation sources results)
    (hread : ∀ source, ∀ result ∈ results, relation source result → f source = .ok result) :
    sources.mapM f = .ok results := by
  induction h with
  | nil => rfl
  | @cons source result _ _ hfirst _ ih =>
    have hsource := hread source result (List.mem_cons_self ..) hfirst
    have hrest := ih fun other value hvalue => hread other value (List.mem_cons_of_mem _ hvalue)
    rw [List.mapM_cons, hsource, hrest]
    rfl

theorem WritesAccessor.getD {written : Option (Option String)} {accessor customary : Option String}
    (h : WritesAccessor written accessor customary) : written.getD customary = accessor := by
  rcases h with rfl | ⟨rfl, rfl⟩
  · exact Option.getD_some
  · exact Option.getD_none

theorem PropertyEntry.Writes.property {entry : PropertyEntry} {property : Property}
    {params : List String} (h : entry.Writes property) (hty : property.ty.Writable params) :
    entry.property params = .ok property := by
  obtain ⟨space, hspelled⟩ := h.ty
  have hparse := hty.parse_written space
  rw [PropertyEntry.property, hspelled, hparse]
  dsimp only [Property.bean]
  rw [h.name, h.reader.getD, h.writer.getD, hty.bindParams_unbound]

theorem TypeEntry.Writes.split {entry : TypeEntry} {definition : Definition}
    (h : entry.Writes definition) (hundotted : Name.isDotted definition.name = false) :
    entry.split = (definition.module, definition.name) := by
  obtain ⟨hmodule, hname⟩ : entry.module = definition.module ∧ entry.name = definition.name := by
    cases h with
    | composite hmodule hname | enumeration hmodule hname => exact ⟨hmodule, hname⟩
  rw [← hmodule, ← hname]
  rw [← hname] at hundotted
  simp [TypeEntry.split, hundotted]

theorem TypeEntry.Writes.definition {entry : TypeEntry} {definition : Definition}
    (h : entry.Writes definition) (hdefinition : definition.Writable) :
    entry.definition = .ok definition := by
  have hsplit := h.split hdefinition.undotted
  rw [TypeEntry.definition, hsplit]
  cases h with
  | @composite c _ _ hparams properties hproperties hall hmembers =>
    have hread : properties.mapM (·.property c.params) = .ok c.properties :=
      mapM_of_forall₂ hall fun source property hproperty hwrites =>
        hwrites.property ((hdefinition.composite c rfl).types property hproperty)
    rw [hproperties, hmembers, hparams]
    dsimp only [Option.getD_some]
    rw [hread]
    rfl
  | enumeration _ _ _ hproperties hmembers =>
    rw [hproperties, hmembers]
    rfl

theorem Definition.Writable.flawless {definition : Definition} (h : definition.Writable) :
    Catalog.flawOf? definition = none := by
  have hnamed : definition.name.isEmpty = false := by simpa using h.named
  cases definition with
  | enumeration e => simp [Catalog.flawOf?, hnamed]
  | composite c =>
    have hc := h.composite c rfl
    have hparams := (Catalog.firstRepeated?_eq_none_iff [] c.params).2 ⟨hc.params, by simp⟩
    have hproperties := (Catalog.firstRepeated?_eq_none_iff [] (c.properties.map (·.name))).2
      ⟨hc.properties, by simp⟩
    simp [Catalog.flawOf?, hnamed, hparams, hproperties]

theorem mapM_definition {entries : List TypeEntry} {definitions : List Definition}
    (h : List.Forall₂ TypeEntry.Writes entries definitions)
    (hwritable : ∀ definition ∈ definitions, definition.Writable) :
    entries.mapM (·.definition) = .ok definitions :=
  mapM_of_forall₂ h fun _ definition hdefinition hwrites =>
    hwrites.definition (hwritable definition hdefinition)

theorem Catalog.admits_of_writable {definitions : List Definition}
    (hwritable : ∀ definition ∈ definitions, definition.Writable)
    (hnames : (definitions.map (·.qualifiedName)).Nodup) : empty.Admits definitions :=
  ⟨fun definition hdefinition => (hwritable definition hdefinition).flawless, hnames,
    fun _ _ => rfl⟩

/-- Definitions with names of their own can be written into a document, with any settings. Whatever
document spells them is loaded as a catalogue of exactly these definitions in this order, with the
settings of the document; so is every text that is read as this document. -/
theorem Catalog.written_read_back {definitions : List Definition}
    (hwritable : ∀ definition ∈ definitions, definition.Writable)
    (hnames : (definitions.map (·.qualifiedName)).Nodup) :
    (∀ settings, ∃ document : Document, document.settings = settings ∧
        document.Writes definitions) ∧
      ∀ document : Document, document.Writes definitions →
        ofDocument document = .ok ⟨definitions, document.settings⟩ ∧
          ∀ bytes, Document.ofJson bytes = .ok document →
            ofJson bytes = .ok ⟨definitions, document.settings⟩ := by
  constructor
  · intro settings
    refine ⟨⟨settings, definitions.map (·.entry)⟩, rfl, ?_⟩
    exact List.forall₂_map_left_iff.2 (List.forall₂_same.2 fun definition _ =>
      definition.writes_entry)
  · intro document hdocument
    have hread : document.types.mapM (·.definition) = .ok definitions :=
      mapM_definition hdocument hwritable
    have hloaded : ofDocument document = .ok ⟨definitions, document.settings⟩ :=
      ofDocument_ok_iff.2 ⟨definitions, hread, admits_of_writable hwritable hnames, rfl⟩
    exact ⟨hloaded, fun bytes hbytes => ofJson_ok_iff.2 ⟨document, hbytes, hloaded⟩⟩

/-- An enumeration, and a composite that applies a name to a parameter of the same name. -/
def parcel : List Definition :=
  [.enumeration ⟨"Kind", "", ["A"]⟩,
    .composite ⟨"Parcel", "post", ["T"],
      [⟨"load", .applied "T" [.applied "q.L" [.param "T", .named "Kind"]], none, some "setLoad"⟩]⟩]

def parcelText : String :=
  "\x7b\"types\":[\x7b\"name\":\"Kind\",\"enum\":[\"A\"]\x7d,\x7b\"module\":\"post\"," ++
    "\"name\":\"Parcel\",\"params\":[\"T\"],\"properties\":[\x7b\"name\":\"load\"," ++
    "\"type\":\"T<q.L<T, Kind>>\",\"reader\":null\x7d]\x7d]\x7d"

def parcelDocument : Document where
  types := [
    { name := "Kind", members := some ["A"] },
    { module := "post", name := "Parcel", params := ["T"], properties := some [
      { name := "load", ty := "T<q.L<T, Kind>>", reader := some none }] }]

theorem Catalog.written_read_back_parcel :
    (∀ definition ∈ parcel, definition.Writable) ∧ (parcel.map (·.qualifiedName)).Nodup ∧
      parcelDocument.Writes parcel ∧
        Document.ofJson parcelText.toUTF8.toList = .ok parcelDocument ∧
          ofJson parcelText.toUTF8.toList = .ok ⟨parcel, none⟩ := by
  have hty : (Ty.applied "T" [.applied "q.L" [.param "T", .named "Kind"]]).Writable ["T"] := by
    refine .applied (by decide) (List.cons_ne_nil _ _) (List.forall_mem_singleton.2 ?_)
    refine .applied (by decide) (List.cons_ne_nil _ _) (List.forall_mem_cons.2 ⟨?_, ?_⟩)
    · exact .param (by decide) (by decide)
    · exact List.forall_mem_singleton.2 (.named (by decide) (by decide))
  have hwritable : ∀ definition ∈ parcel, definition.Writable := by
    refine List.forall_mem_cons.2 ⟨⟨by decide, by decide, nofun⟩, List.forall_mem_singleton.2 ?_⟩
    refine ⟨by decide, by decide, ?_⟩
    rintro _ ⟨⟩
    exact ⟨by decide, by decide, List.forall_mem_singleton.2 hty⟩
  have hnames : (parcel.map (·.qualifiedName)).Nodup := by decide
  have hwrites : parcelDocument.Writes parcel := by
    refine .cons (.enumeration rfl rfl rfl rfl rfl) (.cons ?_ .nil)
    refine .composite rfl rfl rfl rfl (.cons ?_ .nil) rfl
    refine ⟨rfl, ⟨⟨[' '], List.forall_mem_singleton.2 (by decide)⟩, ?_⟩, .inl rfl, .inr ⟨rfl, ?_⟩⟩
    · decide
    · decide
  have hread : (Document.ofJson parcelText.toUTF8.toList).toOption = some parcelDocument := by
    decide +kernel
  have hdocument : Document.ofJson parcelText.toUTF8.toList = .ok parcelDocument := by
    generalize Document.ofJson parcelText.toUTF8.toList = result at hread
    cases result with
    | error flaw => cases hread
    | ok document => exact congrArg _ (Option.some.inj hread)
  have hall := (written_read_back hwritable hnames).2 parcelDocument hwrites
  exact ⟨hwritable, hnames, hwrites, hdocument, hall.2 _ hdocument⟩

end Fixture

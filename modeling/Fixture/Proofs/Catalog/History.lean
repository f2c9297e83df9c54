import Fixture.Proofs.Catalog.Admission
import Fixture.Proofs.Catalog.Loaded

/-!
# The history of a catalogue

A catalogue is offered definitions: those of a list or of a document when it begins, later single
ones and those of other catalogues. Some offers are refused, and after a refusal the rest of what
came with it is not tried any more. The history of a catalogue is the list of all definitions that
were tried, refused or not, in the order of time. It alone tells what the catalogue holds, in which
order: of the well-formed definitions the first of each qualified name.
-/

namespace Fixture

/-- Has a name, and declares no parameter and no property twice. -/
def Definition.WellFormed : Definition → Prop
  | composite c => c.name ≠ "" ∧ c.params.Nodup ∧ (c.properties.map (·.name)).Nodup
  | enumeration e => e.name ≠ ""

instance : DecidablePred Definition.WellFormed
  | .composite c => inferInstanceAs
    (Decidable (c.name ≠ "" ∧ c.params.Nodup ∧ (c.properties.map (·.name)).Nodup))
  | .enumeration e => inferInstanceAs (Decidable (e.name ≠ ""))

namespace Catalog

/-- The first definition of each qualified name, in their order. -/
def firsts : List Definition → List Definition
  | [] => []
  | first :: rest => first :: (firsts rest).filter (·.qualifiedName ≠ first.qualifiedName)

/-- The definitions that are looked at when a list of them is inserted: those up to the first that
is refused. -/
def tried (catalog : Catalog) : List Definition → List Definition
  | [] => []
  | definition :: rest =>
    definition :: match catalog.insert definition with
      | .error _ => []
      | .ok larger => larger.tried rest

/-- The ways in which a catalogue comes about, with its history. Insertions and merges count whether
they succeed or not; a list or a document that is refused begins no catalogue. -/
inductive Built : List Definition → Catalog → Prop
  | empty : Built [] empty
  | ofDefinitions {definitions : List Definition} {catalog : Catalog}
      (h : ofDefinitions definitions = .ok catalog) : Built definitions catalog
  | ofJson {bytes : List UInt8} {document : Document} {definitions : List Definition}
      {catalog : Catalog} (hdocument : Document.ofJson bytes = .ok document)
      (hdefinitions : document.types.mapM (·.definition) = .ok definitions)
      (h : ofJson bytes = .ok catalog) : Built definitions catalog
  | insert {history : List Definition} {catalog : Catalog} (definition : Definition)
      (hcatalog : Built history catalog) :
      Built (history ++ [definition]) (catalog.insertAll [definition]).1
  | merge {history others : List Definition} {catalog other : Catalog}
      (hcatalog : Built history catalog) (hother : Built others other) :
      Built (history ++ catalog.tried other.definitions) (catalog.merge other).1

/-- What a catalogue with some history is like. -/
structure Holding (history : List Definition) (catalog : Catalog) : Prop where
  order : catalog.definitions = firsts (history.filter (·.WellFormed))
  wellFormed : ∀ definition ∈ catalog.definitions, definition.WellFormed
  nodup : (catalog.definitions.map (·.qualifiedName)).Nodup
  stored : ∀ qualified definition, catalog.find? qualified = some definition ↔
    definition ∈ catalog.definitions ∧ definition.qualifiedName = qualified
  lookup : ∀ definition ∈ catalog.definitions,
    catalog.lookup definition.qualifiedName = .ok (some definition)
  /-- An insertion is refused and changes nothing, or it adds the definition behind the others. -/
  insert : ∀ definition,
    (∃ flaw, catalog.insert definition = .error flaw ∧
      catalog.insertAll [definition] = (catalog, some flaw)) ∨
    ∃ larger, catalog.insert definition = .ok larger ∧
      catalog.insertAll [definition] = (larger, none) ∧
        larger = ⟨catalog.definitions ++ [definition], catalog.settings⟩

variable {catalog larger other : Catalog} {definition : Definition} {flaw : Flaw}
  {history definitions : List Definition} {qualified : String}

theorem flawOf?_eq_none_iff : flawOf? definition = none ↔ definition.WellFormed := by
  cases definition with
  | enumeration e => simp [flawOf?, Definition.name, Definition.WellFormed]
  | composite c =>
    have hparams := firstRepeated?_eq_none_iff [] c.params
    have hproperties := firstRepeated?_eq_none_iff [] (c.properties.map (·.name))
    simp only [List.not_mem_nil, not_false_eq_true, implies_true, and_true] at hparams hproperties
    rw [Definition.WellFormed, ← hparams, ← hproperties, flawOf?]
    by_cases hname : c.name = ""
    · simp [Definition.name, hname]
    · rw [if_neg (by simpa [Definition.name] using hname)]
      split
      · next hparam => simp [hparam]
      · next hparam hproperty => simp [hproperty]
      · next hparam hproperty => simp [hparam, hproperty, hname]

/-! ### The first of each qualified name -/

theorem mem_names_firsts :
    qualified ∈ (firsts definitions).map (·.qualifiedName) ↔
      qualified ∈ definitions.map (·.qualifiedName) := by
  induction definitions with
  | nil => rfl
  | cons first rest ih =>
    rw [List.mem_map] at ih
    by_cases hfirst : qualified = first.qualifiedName
    · simp [firsts, hfirst]
    · have hne : first.qualifiedName ≠ qualified := Ne.symm hfirst
      simp only [firsts, List.map_cons, List.mem_cons, hfirst, false_or, ← ih]
      simp only [List.mem_map, List.mem_filter, decide_eq_true_eq]
      constructor
      · rintro ⟨definition, ⟨hmem, -⟩, hname⟩
        exact ⟨definition, hmem, hname⟩
      · rintro ⟨definition, hmem, hname⟩
        exact ⟨definition, ⟨hmem, by rwa [hname]⟩, hname⟩

theorem firsts_concat (definitions : List Definition) (definition : Definition) :
    firsts (definitions ++ [definition]) =
      firsts definitions ++
        if definition.qualifiedName ∈ definitions.map (·.qualifiedName) then []
        else [definition] := by
  induction definitions with
  | nil => rfl
  | cons first rest ih =>
    rw [List.cons_append, firsts, ih, firsts, List.filter_append, List.cons_append]
    by_cases hfirst : definition.qualifiedName = first.qualifiedName
    · split <;> simp [hfirst]
    · by_cases hrest : definition.qualifiedName ∈ rest.map (·.qualifiedName)
      · simp [hrest]
      · simp [hrest, hfirst]

/-! ### One insertion -/

theorem insert_error_iff :
    (∃ flaw, catalog.insert definition = .error flaw) ↔
      ¬ (definition.WellFormed ∧ catalog.contains definition.qualifiedName = false) := by
  rw [← flawOf?_eq_none_iff]
  cases hinsert : catalog.insert definition with
  | error flaw =>
    simp only [Except.error.injEq, exists_eq', true_iff]
    rintro ⟨hflaw, hnew⟩
    have hok := insert_ok_iff.2 ⟨hflaw, hnew, rfl⟩
    rw [hinsert] at hok
    cases hok
  | ok larger =>
    obtain ⟨hflaw, hnew, -⟩ := insert_ok_iff.1 hinsert
    simp [hflaw, hnew]

theorem insertAll_singleton_of_error (h : catalog.insert definition = .error flaw) :
    catalog.insertAll [definition] = (catalog, some flaw) := by
  rw [insertAll, h]

theorem insertAll_singleton_of_ok (h : catalog.insert definition = .ok larger) :
    catalog.insertAll [definition] = (larger, none) := by
  rw [insertAll, h]
  rfl

/-- A catalogue holds what its history says. -/
def Tells (history : List Definition) (catalog : Catalog) : Prop :=
  catalog.definitions = firsts (history.filter (·.WellFormed))

theorem Tells.contains (h : Tells history catalog) :
    catalog.contains qualified = true ↔
      qualified ∈ (history.filter (·.WellFormed)).map (·.qualifiedName) := by
  rw [contains_iff, h, mem_names_firsts]

theorem Tells.of_error (h : Tells history catalog) (hinsert : catalog.insert definition = .error flaw) :
    Tells (history ++ [definition]) catalog := by
  have hrefused := insert_error_iff.1 ⟨flaw, hinsert⟩
  rw [Tells, h, List.filter_append]
  by_cases hform : definition.WellFormed
  · have hheld : catalog.contains definition.qualifiedName = true := by
      simpa [hform] using hrefused
    have hone : [definition].filter (·.WellFormed) = [definition] := by simp [hform]
    rw [hone, firsts_concat, if_pos (h.contains.1 hheld), List.append_nil]
  · have hnone : [definition].filter (·.WellFormed) = [] := by simp [hform]
    rw [hnone, List.append_nil]

theorem Tells.of_ok (h : Tells history catalog) (hinsert : catalog.insert definition = .ok larger) :
    Tells (history ++ [definition]) larger := by
  obtain ⟨hflaw, hnew, rfl⟩ := insert_ok_iff.1 hinsert
  have hone : [definition].filter (·.WellFormed) = [definition] := by
    simp [flawOf?_eq_none_iff.1 hflaw]
  have hunheld : definition.qualifiedName ∉
      (history.filter (·.WellFormed)).map (·.qualifiedName) := by
    rw [← h.contains, hnew]
    exact Bool.false_ne_true
  rw [Tells, List.filter_append, hone, firsts_concat, if_neg hunheld, ← h]

/-! ### Histories -/

theorem Tells.insertAll (h : Tells history catalog) (definitions : List Definition) :
    Tells (history ++ catalog.tried definitions) (catalog.insertAll definitions).1 := by
  induction definitions generalizing catalog history with
  | nil => simpa [tried, Catalog.insertAll] using h
  | cons definition rest ih =>
    cases hinsert : catalog.insert definition with
    | error flaw => simpa [tried, Catalog.insertAll, hinsert] using h.of_error hinsert
    | ok larger =>
      have hrest := ih (h.of_ok hinsert)
      rw [List.append_assoc] at hrest
      simpa [tried, Catalog.insertAll, hinsert] using hrest

theorem tried_of_ok (h : catalog.insertAll definitions = (larger, none)) :
    catalog.tried definitions = definitions := by
  induction definitions generalizing catalog with
  | nil => rfl
  | cons definition rest ih =>
    cases hinsert : catalog.insert definition with
    | error flaw => simp [insertAll, hinsert] at h
    | ok middle =>
      simp only [insertAll, hinsert] at h
      simp only [tried, hinsert, ih h]

theorem Tells.of_admits (h : empty.Admits definitions) (settings : Option Settings) :
    Tells definitions ⟨definitions, settings⟩ := by
  have hall : empty.insertAll definitions = (empty.extend definitions, none) :=
    insertAll_ok_iff.2 ⟨h, rfl⟩
  have htells : Tells [] empty := rfl
  have htells := htells.insertAll definitions
  rwa [hall, tried_of_ok hall] at htells

theorem Built.tells (h : Built history catalog) : Tells history catalog := by
  induction h with
  | empty => rfl
  | ofDefinitions h =>
    obtain ⟨hadmits, rfl⟩ := ofDefinitions_ok_iff.1 h
    exact .of_admits hadmits none
  | ofJson hdocument hdefinitions h =>
    obtain ⟨_, hsame, hloaded⟩ := ofJson_ok_iff.1 h
    obtain rfl := Except.ok.inj (hdocument.symm.trans hsame)
    obtain ⟨_, hsame, hadmits, rfl⟩ := ofDocument_ok_iff.1 hloaded
    obtain rfl := Except.ok.inj (hdefinitions.symm.trans hsame)
    exact .of_admits hadmits _
  | insert definition _ ih =>
    have htried : ∀ catalog : Catalog, catalog.tried [definition] = [definition] := by
      intro catalog
      rw [tried]
      cases catalog.insert definition <;> rfl
    have htells := ih.insertAll [definition]
    rwa [htried] at htells
  | @merge _ _ _ other _ _ ih _ =>
    rw [Tells, merge_definitions]
    exact ih.insertAll other.definitions

theorem Built.reachable (h : Built history catalog) : catalog.Reachable := by
  induction h with
  | empty => exact .empty
  | ofDefinitions h => exact .ofDefinitions h
  | ofJson _ _ h => exact .ofJson h
  | @insert _ catalog definition _ ih =>
    cases hinsert : catalog.insert definition with
    | error flaw =>
      rw [insertAll_singleton_of_error hinsert]
      exact ih
    | ok larger =>
      rw [insertAll_singleton_of_ok hinsert]
      exact ih.insert hinsert
  | merge _ _ ih ihother => exact ih.merge ihother

theorem Reachable.exists_built (h : catalog.Reachable) : ∃ history, Built history catalog := by
  induction h with
  | empty => exact ⟨_, .empty⟩
  | ofDefinitions h => exact ⟨_, .ofDefinitions h⟩
  | ofJson h =>
    obtain ⟨document, hdocument, hloaded⟩ := ofJson_ok_iff.1 h
    obtain ⟨definitions, hdefinitions, -⟩ := ofDocument_ok_iff.1 hloaded
    exact ⟨definitions, .ofJson hdocument hdefinitions h⟩
  | @insert _ _ definition _ h ih =>
    obtain ⟨history, hbuilt⟩ := ih
    have hlarger := hbuilt.insert definition
    rw [insertAll_singleton_of_ok h] at hlarger
    exact ⟨_, hlarger⟩
  | merge _ _ ih ihother =>
    obtain ⟨history, hbuilt⟩ := ih
    obtain ⟨others, hothers⟩ := ihother
    exact ⟨_, hbuilt.merge hothers⟩

theorem Lawful.find?_eq_some_iff (h : catalog.Lawful) :
    catalog.find? qualified = some definition ↔
      definition ∈ catalog.definitions ∧ definition.qualifiedName = qualified := by
  constructor
  · intro hfind
    exact ⟨List.mem_of_find?_eq_some hfind, by simpa using List.find?_some hfind⟩
  · rintro ⟨hmem, rfl⟩
    exact h.find?_qualifiedName hmem

/-- The reachable catalogues are those with a history, and a catalogue with a history is in order at
every time. It holds, of the well-formed definitions in its history, the first of each qualified
name and no others, in the order in which they came; so its definitions have names, declare no
parameter and no property twice, and have different qualified names. Each is found under its own
qualified name and nothing is found under another. An insertion that is refused leaves the catalogue
as it is, and any other adds the definition that was given. -/
theorem reachable_holding (catalog : Catalog) :
    (catalog.Reachable ↔ ∃ history, Built history catalog) ∧
      ∀ history, Built history catalog → catalog.Holding history := by
  refine ⟨⟨Reachable.exists_built, fun ⟨_, hbuilt⟩ => hbuilt.reachable⟩, fun history hbuilt => ?_⟩
  have hlawful : catalog.Lawful := hbuilt.reachable.lawful
  refine ⟨hbuilt.tells, fun definition hmem => ?_, hlawful.nodup,
    fun qualified definition => hlawful.find?_eq_some_iff, fun definition hmem => ?_,
    fun definition => ?_⟩
  · exact flawOf?_eq_none_iff.1 (hlawful.flawless definition hmem)
  · rw [lookup, hlawful.find?_qualifiedName hmem]
  · cases hinsert : catalog.insert definition with
    | error flaw => exact .inl ⟨flaw, rfl, insertAll_singleton_of_error hinsert⟩
    | ok larger =>
      obtain ⟨-, -, hlarger⟩ := insert_ok_iff.1 hinsert
      exact .inr ⟨larger, rfl, insertAll_singleton_of_ok hinsert, hlarger⟩

def box : Definition := .composite ⟨"Box", "pl", ["T"], [.bean "content" (.param "T")]⟩

def colour : Definition := .enumeration ⟨"Colour", "pl", ["RED"]⟩

def lid : Definition := .composite ⟨"Lid", "pl", [], []⟩

/-- A parameter is declared twice. -/
def misshapen : Definition := .composite ⟨"Pair", "pl", ["T", "T"], []⟩

/-- Another spelling of the qualified name of a box. -/
def boxAgain : Definition := .enumeration ⟨"pl.Box", "", []⟩

/-- A refused insertion, and a merge that stops in the middle: the last definition of the other
catalogue is not tried. -/
theorem reachable_holding_boxes :
    Built [box, colour, misshapen, lid, boxAgain] { definitions := [box, colour, lid] } ∧
      Holding [box, colour, misshapen, lid, boxAgain] { definitions := [box, colour, lid] } := by
  have hother : Built [lid, boxAgain, colour] { definitions := [lid, boxAgain, colour] } :=
    .ofDefinitions rfl
  have hbegun : Built [box, colour] { definitions := [box, colour] } := .ofDefinitions rfl
  have hbuilt : Built [box, colour, misshapen, lid, boxAgain]
      { definitions := [box, colour, lid] } := (hbegun.insert misshapen).merge hother
  exact ⟨hbuilt, (reachable_holding _).2 _ hbuilt⟩

end Catalog

end Fixture

import Fixture.Proofs.Catalog.Reachable
import Fixture.Proofs.Except

/-!
# Which definitions a catalogue admits

Definitions are inserted one at a time and every insertion looks at the catalogue it finds, but
whether all of a list are admitted can be told at once: they must be without flaw, and their
qualified names new to the catalogue and to each other. All ways of putting a catalogue together are
told by this one condition and by the order of the definitions.
-/

namespace Fixture.Catalog

/-- All the definitions can be inserted, one after the other. -/
structure Admits (catalog : Catalog) (definitions : List Definition) : Prop where
  flawless : ∀ definition ∈ definitions, flawOf? definition = none
  nodup : (definitions.map (·.qualifiedName)).Nodup
  new : ∀ definition ∈ definitions, catalog.contains definition.qualifiedName = false

/-- The catalogue with further definitions behind its own. -/
def extend (catalog : Catalog) (definitions : List Definition) : Catalog :=
  { catalog with definitions := catalog.definitions ++ definitions }

variable {catalog larger other : Catalog} {definition : Definition}
  {definitions first second : List Definition}

@[simp] theorem extend_nil (catalog : Catalog) : catalog.extend [] = catalog := by
  simp [extend]

@[simp] theorem extend_extend (catalog : Catalog) (first second : List Definition) :
    (catalog.extend first).extend second = catalog.extend (first ++ second) := by
  simp [extend]

theorem contains_extend {qualified : String} :
    (catalog.extend definitions).contains qualified = false ↔
      catalog.contains qualified = false ∧
        qualified ∉ definitions.map (·.qualifiedName) := by
  simp [extend, contains]

theorem admits_nil (catalog : Catalog) : catalog.Admits [] := ⟨by simp, by simp, by simp⟩

theorem admits_cons : catalog.Admits (definition :: definitions) ↔
    flawOf? definition = none ∧ catalog.contains definition.qualifiedName = false ∧
      (catalog.extend [definition]).Admits definitions := by
  constructor
  · rintro ⟨hflawless, hnodup, hnew⟩
    obtain ⟨hflaw, hflawless⟩ := List.forall_mem_cons.1 hflawless
    obtain ⟨hdefinition, hnew⟩ := List.forall_mem_cons.1 hnew
    rw [List.map_cons, List.nodup_cons] at hnodup
    refine ⟨hflaw, hdefinition, hflawless, hnodup.2, fun other hother => ?_⟩
    refine contains_extend.2 ⟨hnew other hother, fun hmem => hnodup.1 ?_⟩
    have hname : other.qualifiedName = definition.qualifiedName := List.mem_singleton.1 hmem
    rw [← hname]
    exact List.mem_map_of_mem hother
  · rintro ⟨hflaw, hdefinition, hflawless, hnodup, hnew⟩
    have hnew := fun other hother => contains_extend.1 (hnew other hother)
    refine ⟨List.forall_mem_cons.2 ⟨hflaw, hflawless⟩, ?_, ?_⟩
    · rw [List.map_cons, List.nodup_cons]
      refine ⟨fun hmem => ?_, hnodup⟩
      obtain ⟨other, hother, heq⟩ := List.mem_map.1 hmem
      exact (hnew other hother).2 (List.mem_singleton.2 heq)
    · exact List.forall_mem_cons.2 ⟨hdefinition, fun other hother => (hnew other hother).1⟩

theorem admits_append : catalog.Admits (first ++ second) ↔
    catalog.Admits first ∧ (catalog.extend first).Admits second := by
  induction first generalizing catalog with
  | nil => simp [admits_nil]
  | cons definition rest ih =>
    rw [List.cons_append, admits_cons, admits_cons, ih, extend_extend]
    simp only [List.singleton_append, and_assoc]

theorem Admits.mono (h : catalog.Admits definitions)
    (hless : ∀ qualified, catalog.contains qualified = false → other.contains qualified = false) :
    other.Admits definitions :=
  ⟨h.flawless, h.nodup, fun definition hdefinition => hless _ (h.new definition hdefinition)⟩

theorem Admits.of_empty (h : catalog.Admits definitions) : empty.Admits definitions :=
  h.mono fun _ _ => rfl

/-! ### Ways of putting a catalogue together -/

theorem insertAll_ok_iff : catalog.insertAll definitions = (larger, none) ↔
    catalog.Admits definitions ∧ larger = catalog.extend definitions := by
  induction definitions generalizing catalog with
  | nil => simp [insertAll, admits_nil, eq_comm]
  | cons definition rest ih =>
    rw [insertAll, admits_cons]
    cases hinsert : catalog.insert definition with
    | error flaw =>
      have hrefused : ¬ (flawOf? definition = none ∧
          catalog.contains definition.qualifiedName = false) := by
        rintro ⟨hflaw, hnew⟩
        have hok := insert_ok_iff.2 ⟨hflaw, hnew, rfl⟩
        rw [hinsert] at hok
        cases hok
      simp only [Prod.mk.injEq, reduceCtorEq, and_false, false_iff, ← and_assoc]
      tauto
    | ok middle =>
      obtain ⟨hflaw, hnew, rfl⟩ := insert_ok_iff.1 hinsert
      have hmiddle : catalog.extend (definition :: rest) =
          (catalog.extend [definition]).extend rest := by simp
      rw [hmiddle]
      exact ih.trans (by simp [hflaw, hnew, extend])

theorem exists_flaw (h : ¬ catalog.Admits definitions) :
    ∃ inserted flaw, catalog.insertAll definitions = (inserted, some flaw) := by
  cases hinsert : catalog.insertAll definitions with
  | mk inserted refused =>
    cases refused with
    | none => exact absurd (insertAll_ok_iff.1 hinsert).1 h
    | some flaw => exact ⟨inserted, flaw, rfl⟩

theorem merge_ok_iff : catalog.merge other = (larger, none) ↔
    catalog.Admits other.definitions ∧
      larger = { catalog.extend other.definitions with
        settings := other.settings.or catalog.settings } := by
  rw [merge]
  by_cases hadmits : catalog.Admits other.definitions
  · rw [insertAll_ok_iff.2 ⟨hadmits, rfl⟩]
    simp [hadmits, extend, eq_comm]
  · obtain ⟨inserted, flaw, hinsert⟩ := exists_flaw hadmits
    rw [hinsert]
    simp [hadmits]

theorem ofDefinitions_ok_iff : ofDefinitions definitions = .ok catalog ↔
    empty.Admits definitions ∧ catalog = { definitions } := by
  rw [ofDefinitions]
  by_cases hadmits : empty.Admits definitions
  · have hextend : empty.extend definitions = { definitions } := by simp [extend, empty]
    rw [insertAll_ok_iff.2 ⟨hadmits, rfl⟩, hextend]
    simp [hadmits, eq_comm]
  · obtain ⟨inserted, flaw, hinsert⟩ := exists_flaw hadmits
    rw [hinsert]
    simp [hadmits]

theorem ofDocument_ok_iff {document : Document} : ofDocument document = .ok catalog ↔
    ∃ definitions, document.types.mapM (·.definition) = .ok definitions ∧
      empty.Admits definitions ∧ catalog = ⟨definitions, document.settings⟩ := by
  rw [ofDocument]
  cases document.types.mapM (·.definition) with
  | error flaw => simp
  | ok definitions =>
    dsimp only
    split
    · next hloaded =>
      have hrefused : ¬ empty.Admits definitions := by
        intro hadmits
        rw [ofDefinitions_ok_iff.2 ⟨hadmits, rfl⟩] at hloaded
        cases hloaded
      simp [hrefused]
    · next hloaded =>
      obtain ⟨hadmits, rfl⟩ := ofDefinitions_ok_iff.1 hloaded
      simp [hadmits, eq_comm]

theorem ofJson_ok_iff {bytes : List UInt8} : ofJson bytes = .ok catalog ↔
    ∃ document, Document.ofJson bytes = .ok document ∧ ofDocument document = .ok catalog := by
  rw [ofJson]
  cases Document.ofJson bytes <;> simp

end Fixture.Catalog

import Fixture.Proofs.Catalog.History

/-!
# Lookups while a catalogue grows

Whatever is done to a catalogue, and wherever it is refused, the definitions stay and new ones come
behind them. A name can mean more than before, but what it meant is never lost: a qualified name
stands for its definition for good, and a name inside modules keeps its candidates in their order,
until it becomes the qualified name of a definition itself.
-/

namespace Fixture.Catalog

/-- Something that is done to a catalogue. -/
inductive Change
  | insert (definition : Definition)
  | merge (other : Catalog)

/-- The catalogue after a change, which may have been refused, wholly or in the middle. -/
def change (catalog : Catalog) : Change → Catalog
  | .insert definition => (catalog.insertAll [definition]).1
  | .merge other => (catalog.merge other).1

def changeAll (catalog : Catalog) (changes : List Change) : Catalog :=
  changes.foldl change catalog

/-- The definitions with a name inside their module, in their order. -/
def named (catalog : Catalog) (name : String) : List Definition :=
  catalog.definitions.filter (·.name == name)

/-- A name stands for the definition whose qualified name it is. -/
def StandsWhole (catalog : Catalog) (name : String) : Prop :=
  ∃ definition, catalog.lookup name = .ok (some definition) ∧ definition.qualifiedName = name

variable {catalog later : Catalog} {name : String} {definition : Definition} {obstacle : Obstacle}

/-! ### Definitions stay in front -/

theorem definitions_prefix_insertAll (catalog : Catalog) (definitions : List Definition) :
    catalog.definitions <+: (catalog.insertAll definitions).1.definitions := by
  induction definitions generalizing catalog with
  | nil => exact List.prefix_rfl
  | cons first rest ih =>
    rw [insertAll]
    split
    · exact List.prefix_rfl
    · next larger hlarger =>
      obtain ⟨-, -, rfl⟩ := insert_ok_iff.1 hlarger
      have hfirst : catalog.definitions <+: catalog.definitions ++ [first] :=
        List.prefix_append ..
      exact hfirst.trans (ih ⟨catalog.definitions ++ [first], catalog.settings⟩)

theorem definitions_prefix_change (catalog : Catalog) (step : Change) :
    catalog.definitions <+: (catalog.change step).definitions := by
  cases step with
  | insert definition => exact definitions_prefix_insertAll catalog [definition]
  | merge other =>
    rw [change, merge_definitions]
    exact definitions_prefix_insertAll catalog other.definitions

theorem definitions_prefix_changeAll (catalog : Catalog) (changes : List Change) :
    catalog.definitions <+: (catalog.changeAll changes).definitions := by
  induction changes generalizing catalog with
  | nil => exact List.prefix_rfl
  | cons step rest ih => exact (definitions_prefix_change catalog step).trans (ih _)

/-! ### The two stages of a lookup -/

theorem lookup_ok_iff : catalog.lookup name = .ok (some definition) ↔
    catalog.find? name = some definition ∨
      catalog.find? name = none ∧ catalog.named name = [definition] := by
  rw [lookup, named]
  split
  · next hfind => simp [hfind]
  · next hfind =>
    split
    · next hnamed => simp [hfind, hnamed]
    · next only hnamed => simp [hfind, hnamed]
    · next hnone hone =>
      simp only [hfind, reduceCtorEq, true_and, false_or, false_iff]
      exact hone definition

theorem lookup_error_iff : catalog.lookup name = .error obstacle ↔
    catalog.find? name = none ∧ 2 ≤ (catalog.named name).length ∧
      obstacle = .ambiguousName name ((catalog.named name).map (·.qualifiedName)) := by
  rw [lookup, named]
  split
  · next hfind => simp [hfind]
  · next hfind =>
    split
    · next hnamed => simp [hnamed]
    · next only hnamed => simp [hnamed]
    · next hnone hone =>
      have hseveral : 2 ≤ (catalog.definitions.filter (·.name == name)).length := by
        rcases hnamed : catalog.definitions.filter (·.name == name) with _ | ⟨first, _ | _⟩
        · exact absurd hnamed hnone
        · exact absurd hnamed (hone first)
        · rw [hnamed]
          exact Nat.le_add_left ..
      simp [hfind, hseveral, eq_comm]

theorem find?_of_lookup (h : catalog.lookup name = .ok (some definition))
    (hname : definition.qualifiedName = name) : catalog.find? name = some definition := by
  rcases lookup_ok_iff.1 h with hfind | ⟨hfind, -⟩
  · exact hfind
  · have hcontains : catalog.contains name = true :=
      contains_iff.2 (hname ▸ List.mem_map_of_mem (mem_of_lookup h))
    rw [find?_eq_none_iff.1 hfind] at hcontains
    cases hcontains

theorem qualifiedName_of_find? (h : catalog.find? name = some definition) :
    definition.qualifiedName = name := by
  simpa using List.find?_some h

/-! ### Lookups in a larger catalogue -/

/-- A name whose candidates were there before stands for its whole definition now, or it has these
candidates and perhaps more behind them. -/
theorem standsWhole_or_more (h : catalog.definitions <+: later.definitions) (name : String) :
    later.StandsWhole name ∨
      later.find? name = none ∧ ∃ more, later.named name = catalog.named name ++ more := by
  cases hfind : later.find? name with
  | some definition =>
    exact .inl ⟨definition, lookup_ok_iff.2 (.inl hfind), qualifiedName_of_find? hfind⟩
  | none =>
    obtain ⟨more, hmore⟩ := h.filter (·.name == name)
    exact .inr ⟨rfl, more, hmore.symm⟩

/-- Whatever insertions and merges come later, successful or refused: a name that was the qualified
name of a definition stands for this definition. A name that stood for the only definition of that
name inside a module still does, or it is the qualified name of a definition now, or it is ambiguous
and that definition is the first of its candidates. A name that was ambiguous is the qualified name
of a definition now, or it is ambiguous and the candidates from before come first, in their order. -/
theorem lookup_changeAll (catalog : Catalog) (name : String) (changes : List Change) :
    let later := catalog.changeAll changes
    (∀ definition, catalog.lookup name = .ok (some definition) →
      definition.qualifiedName = name → later.lookup name = .ok (some definition)) ∧
    (∀ definition, catalog.lookup name = .ok (some definition) →
      definition.qualifiedName ≠ name →
        later.lookup name = .ok (some definition) ∨ later.StandsWhole name ∨
          ∃ more, later.lookup name =
            .error (.ambiguousName name (definition.qualifiedName :: more))) ∧
    (∀ obstacle, catalog.lookup name = .error obstacle →
      ∃ candidates, obstacle = .ambiguousName name candidates ∧
        (later.StandsWhole name ∨
          ∃ more, later.lookup name = .error (.ambiguousName name (candidates ++ more)))) := by
  intro later
  have hfront : catalog.definitions <+: later.definitions :=
    definitions_prefix_changeAll catalog changes
  refine ⟨fun definition hlookup hname => ?_, fun definition hlookup hname => ?_,
    fun obstacle hlookup => ?_⟩
  · exact lookup_ok_iff.2 (.inl (hfront.find?_eq_some (find?_of_lookup hlookup hname)))
  · rcases lookup_ok_iff.1 hlookup with hfind | ⟨-, honly⟩
    · exact absurd (qualifiedName_of_find? hfind) hname
    · rcases standsWhole_or_more hfront name with hwhole | ⟨hfind, more, hmore⟩
      · exact .inr (.inl hwhole)
      · rw [honly] at hmore
        cases more with
        | nil => exact .inl (lookup_ok_iff.2 (.inr ⟨hfind, hmore⟩))
        | cons next rest =>
          refine .inr (.inr ⟨(next :: rest).map (·.qualifiedName), ?_⟩)
          exact lookup_error_iff.2 ⟨hfind, by simp [hmore], by simp [hmore]⟩
  · obtain ⟨-, hseveral, rfl⟩ := lookup_error_iff.1 hlookup
    refine ⟨_, rfl, ?_⟩
    rcases standsWhole_or_more hfront name with hwhole | ⟨hfind, more, hmore⟩
    · exact .inl hwhole
    · refine .inr ⟨more.map (·.qualifiedName), lookup_error_iff.2 ⟨hfind, ?_, ?_⟩⟩
      · rw [hmore, List.length_append]
        omega
      · rw [hmore, List.map_append]

def atticLid : Definition := .composite ⟨"Lid", "attic", [], []⟩

def cellarLid : Definition := .composite ⟨"Lid", "cellar", [], []⟩

/-- A refused insertion and a merge that stops at the second box. -/
def movingIn : List Change :=
  [.insert misshapen, .merge { definitions := [cellarLid, boxAgain, colour] }]

/-- The box is known by both its names, and of the lids there are more. -/
theorem lookup_changeAll_lids :
    let lids : Catalog := { definitions := [box, lid, atticLid] }
    let later := lids.changeAll movingIn
    lids.lookup "pl.Box" = .ok (some box) ∧ later.lookup "pl.Box" = .ok (some box) ∧
      lids.lookup "Box" = .ok (some box) ∧ box.qualifiedName ≠ "Box" ∧
      (later.lookup "Box" = .ok (some box) ∨ later.StandsWhole "Box" ∨
        ∃ more, later.lookup "Box" = .error (.ambiguousName "Box" ("pl.Box" :: more))) ∧
      lids.lookup "Lid" = .error (.ambiguousName "Lid" ["pl.Lid", "attic.Lid"]) ∧
      (later.StandsWhole "Lid" ∨ ∃ more,
        later.lookup "Lid" = .error (.ambiguousName "Lid" (["pl.Lid", "attic.Lid"] ++ more))) := by
  intro lids later
  have hbox : lids.lookup "pl.Box" = .ok (some box) := rfl
  have hsimple : lids.lookup "Box" = .ok (some box) := rfl
  have hother : box.qualifiedName ≠ "Box" := by decide
  have hlid : lids.lookup "Lid" = .error (.ambiguousName "Lid" ["pl.Lid", "attic.Lid"]) := rfl
  obtain ⟨hwhole, -, -⟩ := lookup_changeAll lids "pl.Box" movingIn
  obtain ⟨-, honly, -⟩ := lookup_changeAll lids "Box" movingIn
  obtain ⟨-, -, hseveral⟩ := lookup_changeAll lids "Lid" movingIn
  obtain ⟨candidates, hcandidates, hlater⟩ := hseveral _ hlid
  cases hcandidates
  exact ⟨hbox, hwhole box hbox rfl, hsimple, hother, honly box hsimple hother, hlid, hlater⟩

end Fixture.Catalog

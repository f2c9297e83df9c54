import Fixture.Proofs.Catalog.History

/-!
# What a merge leaves

A merge inserts one definition after another into the catalogue itself, and at the first that is
refused it stops where it is. The definitions of a reachable catalogue have passed every check of a
single definition and have different qualified names, so nothing is left to refuse one for but a
qualified name that the catalogue had before the merge. How far a merge comes is told by these names
alone.
-/

namespace Fixture.Catalog

variable {catalog other : Catalog} {definition : Definition}
  {definitions before after : List Definition}

theorem insertAll_append (hadmits : catalog.Admits before) :
    catalog.insertAll (before ++ after) = (catalog.extend before).insertAll after := by
  induction before generalizing catalog with
  | nil => rw [extend_nil, List.nil_append]
  | cons first rest ih =>
    obtain ⟨hflaw, hnew, hadmits⟩ := admits_cons.1 hadmits
    have hfirst : catalog.insert first = .ok (catalog.extend [first]) :=
      insert_ok_iff.2 ⟨hflaw, hnew, rfl⟩
    rw [List.cons_append, insertAll, hfirst]
    dsimp only
    rw [ih hadmits, extend_extend, List.singleton_append]

theorem insert_held (hflaw : flawOf? definition = none)
    (hheld : catalog.contains definition.qualifiedName = true) :
    catalog.insert definition = .error (.duplicateType definition.qualifiedName) := by
  rw [insert, hflaw, if_pos hheld]

theorem contains_extend_of_contains {qualified : String}
    (h : catalog.contains qualified = true) :
    (catalog.extend definitions).contains qualified = true := by
  rw [contains_iff] at h ⊢
  exact List.map_append ▸ List.mem_append_left _ h

namespace Lawful

theorem admits_iff (hother : other.Lawful) : catalog.Admits other.definitions ↔
    ∀ definition ∈ other.definitions, catalog.contains definition.qualifiedName = false :=
  ⟨Admits.new, fun hnew => ⟨hother.flawless, hother.nodup, hnew⟩⟩

theorem merge_none_iff (hother : other.Lawful) : (catalog.merge other).2 = none ↔
    ∀ definition ∈ other.definitions, catalog.contains definition.qualifiedName = false := by
  rw [← hother.admits_iff]
  constructor
  · intro hnone
    exact (merge_ok_iff.1 (Prod.ext rfl hnone)).1
  · intro hadmits
    rw [merge_ok_iff.2 ⟨hadmits, rfl⟩]

theorem merge_of_new (hother : other.Lawful)
    (hnew : ∀ definition ∈ other.definitions, catalog.contains definition.qualifiedName = false) :
    catalog.merge other =
      (⟨catalog.definitions ++ other.definitions, other.settings.or catalog.settings⟩, none) :=
  merge_ok_iff.2 ⟨hother.admits_iff.2 hnew, rfl⟩

theorem merge_of_held (hother : other.Lawful)
    (hsplit : other.definitions = before ++ definition :: after)
    (hnew : ∀ earlier ∈ before, catalog.contains earlier.qualifiedName = false)
    (hheld : catalog.contains definition.qualifiedName = true) :
    catalog.merge other = (⟨catalog.definitions ++ before, catalog.settings⟩,
      some (.duplicateType definition.qualifiedName)) := by
  obtain ⟨hflawless, hnodup⟩ := hother
  rw [hsplit] at hflawless hnodup
  have hbefore : catalog.Admits before := by
    refine ⟨fun earlier hearlier => hflawless earlier (List.mem_append_left _ hearlier), ?_, hnew⟩
    rw [List.map_append] at hnodup
    exact hnodup.of_append_left
  have hrefused : (catalog.extend before).insert definition =
      .error (.duplicateType definition.qualifiedName) :=
    insert_held (hflawless definition (by simp)) (contains_extend_of_contains hheld)
  rw [Catalog.merge, hsplit, insertAll_append hbefore, Catalog.insertAll, hrefused]
  rfl

end Lawful

/-- A merge fails if and only if the catalogues have a qualified name in common. Then the flaw is
that this name is used twice, for the first definition of the other catalogue whose name the
catalogue has; what the other has before this definition stays behind the catalogue's own
definitions, and the settings are as they were. A merge that succeeds leaves the definitions of both,
in order, and the settings of the other catalogue where it has any. -/
theorem merge_outcome (catalog : Catalog) {other : Catalog} (hother : other.Reachable) :
    ((∃ flaw, (catalog.merge other).2 = some flaw) ↔
      ∃ qualified, catalog.contains qualified = true ∧ other.contains qualified = true) ∧
    (∀ before definition after, other.definitions = before ++ definition :: after →
      (∀ earlier ∈ before, catalog.contains earlier.qualifiedName = false) →
      catalog.contains definition.qualifiedName = true →
        catalog.merge other = (⟨catalog.definitions ++ before, catalog.settings⟩,
          some (.duplicateType definition.qualifiedName))) ∧
    ((catalog.merge other).2 = none →
      (catalog.merge other).1 = ⟨catalog.definitions ++ other.definitions,
        if other.settings.isSome then other.settings else catalog.settings⟩) := by
  have hlawful := hother.lawful
  refine ⟨?_, fun before definition after => hlawful.merge_of_held, fun hnone => ?_⟩
  · rw [← Option.ne_none_iff_exists', Ne, hlawful.merge_none_iff]
    constructor
    · intro hsome
      push Not at hsome
      obtain ⟨definition, hmem, hheld⟩ := hsome
      exact ⟨definition.qualifiedName, by simpa using hheld,
        contains_iff.2 (List.mem_map_of_mem hmem)⟩
    · rintro ⟨qualified, hheld, hother⟩ hnew
      obtain ⟨definition, hmem, rfl⟩ := List.mem_map.1 (contains_iff.1 hother)
      rw [hnew definition hmem] at hheld
      cases hheld
  · rw [hlawful.merge_of_new (hlawful.merge_none_iff.1 hnone)]
    cases other.settings <;> rfl

def gem : Definition := .enumeration ⟨"Gem", "pl", []⟩

/-- A lid can be taken over. With a second box behind it the merge stops in the middle, and what
comes behind that box is not taken over. -/
theorem merge_outcome_boxes :
    let boxes : Catalog := { definitions := [box, colour], settings := some {} }
    Reachable { definitions := [lid] } ∧
      (boxes.merge { definitions := [lid] }).1 = ⟨[box, colour, lid], some {}⟩ ∧
      Reachable { definitions := [lid, boxAgain, gem] } ∧
      boxes.merge { definitions := [lid, boxAgain, gem] } =
        (⟨[box, colour, lid], some {}⟩, some (.duplicateType "pl.Box")) := by
  intro boxes
  have hlid : ofDefinitions [lid] = .ok { definitions := [lid] } := rfl
  have hall : ofDefinitions [lid, boxAgain, gem] = .ok { definitions := [lid, boxAgain, gem] } :=
    rfl
  obtain ⟨-, -, hwhole⟩ := merge_outcome boxes (.ofDefinitions hlid)
  obtain ⟨-, hheld, -⟩ := merge_outcome boxes (.ofDefinitions hall)
  exact ⟨.ofDefinitions hlid, hwhole rfl, .ofDefinitions hall,
    hheld [lid] boxAgain [gem] rfl (by decide) (by decide)⟩

end Fixture.Catalog

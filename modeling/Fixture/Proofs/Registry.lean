import Fixture.Proofs.Catalog.Reachable
import Fixture.Registry

/-!
# Simple names and their literals

Whether a name is simple and what its literal is are two questions, and each is answered on its own
from the kinds and from the catalogue. A construction asks the first, goes the way of simple types
and then relies on the second. It may: a simple name lacks a literal only if it stands for an
enumeration without members, and a name that is not simple has none.
-/

namespace Fixture.Registry

variable {registry : Registry} {catalog : Catalog} {name : String} {strategy : Strategy}
  {definition : Definition}

/-! ### Kinds -/

/-- The registered kind that a name means beside a catalogue. -/
def kind? (self : Registry) (catalog : Catalog) (name : String) : Option String :=
  if name ∈ self.kinds then some name
  else
    match catalog.lookup name with
    | .ok none => if Name.simple name ∈ self.kinds then some (Name.simple name) else none
    | _ => none

theorem registered?_eq_none_iff {kind : String} :
    registry.registered? kind = none ↔ kind ∉ registry.kinds := by
  simp only [registered?, List.lookup_eq_none_iff, kinds, List.mem_map, bne_iff_ne, ne_eq,
    not_exists, not_and]
  exact forall₂_congr fun entry _ => not_congr eq_comm

theorem mem_of_registered? {kind : String} (h : registry.registered? kind = some strategy) :
    (kind, strategy) ∈ registry.strategies := by
  obtain ⟨before, rest, hentries, -⟩ := List.lookup_eq_some_iff.1 h
  rw [hentries]
  exact List.mem_append_right _ List.mem_cons_self

theorem strategy?_eq_bind (registry : Registry) (catalog : Catalog) (name : String) :
    registry.strategy? catalog name =
      (registry.kind? catalog name).bind registry.registered? := by
  rw [strategy?, kind?]
  cases hregistered : registry.registered? name with
  | some strategy =>
    have hname : name ∈ registry.kinds := by
      by_contra hnot
      rw [registered?_eq_none_iff.2 hnot] at hregistered
      cases hregistered
    rw [if_pos hname]
    exact hregistered.symm
  | none =>
    rw [if_neg (registered?_eq_none_iff.1 hregistered)]
    rcases catalog.lookup name with obstacle | _ | definition
    · rfl
    · by_cases hsimple : Name.simple name ∈ registry.kinds
      · simp [hsimple]
      · simp [hsimple, registered?_eq_none_iff.2 hsimple]
    · rfl

theorem strategy?_of_found (h : catalog.lookup name = .ok (some definition)) :
    registry.strategy? catalog name = registry.registered? name := by
  rw [strategy?, h]
  cases registry.registered? name <;> rfl

theorem literal_of_strategy (h : registry.strategy? catalog name = some strategy)
    (before : Supply) :
    (registry.literal catalog name).run.run before =
      (.ok (strategy.run before).1, (strategy.run before).2) := by
  rw [literal, h]
  rfl

theorem literal_of_kind {kind : String} (hkind : registry.kind? catalog name = some kind)
    (hstrategy : registry.registered? kind = some strategy) (before : Supply) :
    (registry.literal catalog name).run.run before =
      (.ok (strategy.run before).1, (strategy.run before).2) :=
  literal_of_strategy (by rw [strategy?_eq_bind, hkind]; exact hstrategy) before

/-! ### Names without a kind -/

theorem isSimple_of_no_strategy (h : registry.strategy? catalog name = none) :
    registry.isSimple catalog name = catalog.isEnumeration name := by
  rw [isSimple, h]
  rfl

theorem literal_of_no_strategy (h : registry.strategy? catalog name = none) (before : Supply) :
    (registry.literal catalog name).run.run before =
      (match catalog.lookup name with
        | .error obstacle => .error obstacle
        | .ok (some (.enumeration enumeration)) => memberLiteral enumeration
        | .ok _ => .error (.unsupportedType name), before) := by
  rw [literal, h]
  rcases catalog.lookup name with obstacle | _ | _ | enumeration <;> rfl

theorem exists_of_isEnumeration (h : catalog.isEnumeration name = true) :
    ∃ enumeration, catalog.lookup name = .ok (some (.enumeration enumeration)) := by
  unfold Catalog.isEnumeration at h
  split at h
  · next enumeration hlookup => exact ⟨enumeration, hlookup⟩
  · cases h

/-! ### Simple names and others -/

theorem literal_of_simple (hsimple : registry.isSimple catalog name = true) (before : Supply) :
    (∃ literal after, (registry.literal catalog name).run.run before = (.ok literal, after)) ∨
      ∃ enumeration, catalog.lookup name = .ok (some (.enumeration enumeration)) ∧
        enumeration.members = [] ∧ (registry.literal catalog name).run.run before =
          (.error (.emptyEnumeration enumeration.qualifiedName), before) := by
  cases hstrategy : registry.strategy? catalog name with
  | some strategy => exact .inl ⟨_, _, literal_of_strategy hstrategy before⟩
  | none =>
    rw [isSimple_of_no_strategy hstrategy] at hsimple
    obtain ⟨enumeration, hlookup⟩ := exists_of_isEnumeration hsimple
    have hliteral := literal_of_no_strategy hstrategy before
    simp only [hlookup, memberLiteral] at hliteral
    cases hmembers : enumeration.members with
    | nil => exact .inr ⟨enumeration, hlookup, hmembers, by rw [hliteral, hmembers]⟩
    | cons first rest => exact .inl ⟨_, before, by rw [hliteral, hmembers]⟩

theorem literal_of_not_simple (hsimple : registry.isSimple catalog name = false)
    (before : Supply) :
    (registry.literal catalog name).run.run before = (.error (.unsupportedType name), before) ∨
      ∃ candidates, catalog.lookup name = .error (.ambiguousName name candidates) ∧
        (registry.literal catalog name).run.run before =
          (.error (.ambiguousName name candidates), before) := by
  have hstrategy : registry.strategy? catalog name = none := by
    cases h : registry.strategy? catalog name with
    | some strategy => simp [isSimple, h] at hsimple
    | none => rfl
  rw [literal_of_no_strategy hstrategy]
  rw [isSimple_of_no_strategy hstrategy, Catalog.isEnumeration] at hsimple
  rcases hlookup : catalog.lookup name with obstacle | _ | _ | enumeration
  · obtain ⟨candidates, rfl⟩ := Catalog.lookup_error hlookup
    exact .inr ⟨candidates, rfl, rfl⟩
  · exact .inl rfl
  · exact .inl rfl
  · rw [hlookup] at hsimple
    cases hsimple

/-- Simple names are those that have a literal, enumerations without members apart. A simple name
gives a literal, or it stands for an enumeration without members and says so; any other name is
unsupported, or ambiguous as the catalogue finds it, and nothing is drawn. The literal of an
enumeration is its first member behind its name, with nothing drawn, unless a kind is registered
under the name that was asked for: then it is a literal of that kind. -/
theorem isSimple_literal (registry : Registry) (catalog : Catalog) (name : String)
    (before : Supply) :
    let drawn := (registry.literal catalog name).run.run before
    (registry.isSimple catalog name = true →
      (∃ literal after, drawn = (.ok literal, after)) ∨
        ∃ enumeration, catalog.lookup name = .ok (some (.enumeration enumeration)) ∧
          enumeration.members = [] ∧
            drawn = (.error (.emptyEnumeration enumeration.qualifiedName), before)) ∧
    (registry.isSimple catalog name = false →
      drawn = (.error (.unsupportedType name), before) ∨
        ∃ candidates, catalog.lookup name = .error (.ambiguousName name candidates) ∧
          drawn = (.error (.ambiguousName name candidates), before)) ∧
    (∀ enumeration, catalog.lookup name = .ok (some (.enumeration enumeration)) →
      match registry.registered? name, enumeration.members with
      | some strategy, _ => drawn = (.ok (strategy.run before).1, (strategy.run before).2)
      | none, first :: _ => drawn = (.ok (enumeration.name ++ "." ++ first), before)
      | none, [] =>
        drawn = (.error (.emptyEnumeration enumeration.qualifiedName), before)) := by
  intro drawn
  refine ⟨fun hsimple => literal_of_simple hsimple before,
    fun hsimple => literal_of_not_simple hsimple before, fun enumeration hlookup => ?_⟩
  have hstrategy : registry.strategy? catalog name = registry.registered? name :=
    strategy?_of_found hlookup
  cases hregistered : registry.registered? name with
  | some strategy => exact literal_of_strategy (hstrategy.trans hregistered) before
  | none =>
    have hdrawn : drawn = (memberLiteral enumeration, before) := by
      have hdrawn := literal_of_no_strategy (hstrategy.trans hregistered) before
      rwa [hlookup] at hdrawn
    rw [memberLiteral] at hdrawn
    cases hmembers : enumeration.members with
    | nil => simpa only [hmembers] using hdrawn
    | cons first rest => simpa only [hmembers] using hdrawn

/-- An enumeration with the name of a kind, and one without members. -/
def almanac : Catalog :=
  { definitions := [.enumeration ⟨"Date", "pl", ["MAY"]⟩, .enumeration ⟨"Moon", "pl", []⟩] }

theorem isSimple_literal_almanac :
    builtin.isSimple almanac "java.util.UUID" = true ∧
      (∃ literal after, (builtin.literal almanac "java.util.UUID").run.run (.seeded 0) =
        (.ok literal, after)) ∧
      builtin.isSimple almanac "Tide" = false ∧
      (builtin.literal almanac "Tide").run.run (.seeded 0) =
        (.error (.unsupportedType "Tide"), .seeded 0) ∧
      (builtin.literal almanac "pl.Date").run.run (.seeded 0) = (.ok "Date.MAY", .seeded 0) ∧
      (builtin.literal almanac "Moon").run.run (.seeded 0) =
        (.error (.emptyEnumeration "pl.Moon"), .seeded 0) := by
  have huuid : builtin.isSimple almanac "java.util.UUID" = true := by decide +kernel
  have htide : builtin.isSimple almanac "Tide" = false := by decide +kernel
  obtain ⟨hsimple, -, -⟩ := isSimple_literal builtin almanac "java.util.UUID" (.seeded 0)
  obtain ⟨-, hnot, -⟩ := isSimple_literal builtin almanac "Tide" (.seeded 0)
  obtain ⟨-, -, hdate⟩ := isSimple_literal builtin almanac "pl.Date" (.seeded 0)
  obtain ⟨-, -, hmoon⟩ := isSimple_literal builtin almanac "Moon" (.seeded 0)
  refine ⟨huuid, ?_, htide, ?_, hdate ⟨"Date", "pl", ["MAY"]⟩ rfl, hmoon ⟨"Moon", "pl", []⟩ rfl⟩
  · obtain hliteral | ⟨enumeration, hlookup, -⟩ := hsimple huuid
    · exact hliteral
    · cases hlookup
  · obtain hunsupported | ⟨candidates, hlookup, -⟩ := hnot htide
    · exact hunsupported
    · cases hlookup

/-- The simple name of the enumeration is registered, so it is a date that is drawn. -/
theorem literal_almanac_date :
    almanac.lookup "Date" = .ok (some (.enumeration ⟨"Date", "pl", ["MAY"]⟩)) ∧
      builtin.isSimple almanac "Date" = true ∧
      ((builtin.literal almanac "Date").run.run (.seeded 0)).1.toOption =
        some "isoDateStringToDate(\"2019-12-21T00:34:49Z\")" ∧
      ((builtin.literal almanac "Date").run.run (.seeded 0)).2.instant ≠
        (Supply.seeded 0).instant :=
  ⟨rfl, by decide +kernel, by decide +kernel, by decide +kernel⟩

end Fixture.Registry

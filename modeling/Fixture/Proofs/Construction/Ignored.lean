import Fixture.Proofs.Construction.Changed

/-!
# Properties that are to be ignored

A property that is to be ignored might as well not be declared: nothing is emitted for it, no name
is issued and no value is drawn, and whatever would stop its construction does not matter.
Properties get their values in the order of their names, and leaving some out does not change the
order of the others.
-/

namespace Fixture

/-- The composite without the properties of these names. -/
def Composite.without (ignored : List String) (owner : Composite) : Composite :=
  { owner with properties := owner.properties.filter fun property =>
      !ignored.contains property.name }

/-- The catalogue without the properties of these names. -/
def Catalog.without (ignored : List String) (catalog : Catalog) : Catalog :=
  catalog.mapComposites (·.without ignored)

theorem Composite.inPlace_without (ignored : List String) : InPlace (without ignored) :=
  ⟨fun _ => rfl, fun _ => rfl, fun _ => rfl⟩

namespace Plan

theorem place_of_le {property : Property} {properties : List Property}
    (h : ∀ other ∈ properties, property.name ≤ other.name) :
    place property properties = property :: properties := by
  cases properties with
  | nil => rfl
  | cons first rest => rw [place, if_pos (h first (List.mem_cons_self ..))]

theorem filter_place (keep : Property → Bool) (property : Property) {properties : List Property}
    (h : properties.Pairwise (·.name ≤ ·.name)) :
    (place property properties).filter keep =
      if keep property then place property (properties.filter keep)
      else properties.filter keep := by
  induction properties with
  | nil => rw [place, List.filter_cons, List.filter_nil, place]
  | cons first rest ih =>
    obtain ⟨hfirst, hrest⟩ := List.pairwise_cons.1 h
    by_cases hle : property.name ≤ first.name
    · have hall : ∀ other ∈ (first :: rest).filter keep, property.name ≤ other.name := by
        intro other hother
        rcases List.mem_cons.1 (List.mem_of_mem_filter hother) with rfl | hmem
        · exact hle
        · exact String.le_trans hle (hfirst other hmem)
      rw [place, if_pos hle, place_of_le hall, List.filter_cons]
    · rw [place, if_neg hle, List.filter_cons, List.filter_cons, ih hrest]
      cases keep first with
      | false => rfl
      | true =>
        cases keep property with
        | false => rfl
        | true =>
          show _ = place property (first :: rest.filter keep)
          rw [place, if_neg hle]
          rfl

theorem inOrder_filter (keep : Property → Bool) (owner : Composite) :
    inOrder { owner with properties := owner.properties.filter keep } =
      (inOrder owner).filter keep := by
  show (owner.properties.filter keep).foldr place [] = (owner.properties.foldr place []).filter keep
  induction owner.properties with
  | nil => rfl
  | cons property rest ih =>
    have hsorted : (rest.foldr place []).Pairwise (·.name ≤ ·.name) :=
      pairwise_inOrder { owner with properties := rest }
    rw [List.foldr_cons, filter_place keep property hsorted, ← ih, List.filter_cons]
    cases keep property with
    | true => rfl
    | false => rfl

theorem due_of_none_ignored {plan : Plan} (hnone : plan.settings.ignored = [])
    (properties : List Property) : plan.due properties = properties := by
  refine List.filter_eq_self.2 fun property _ => ?_
  rw [Settings.ignores, hnone]
  rfl

theorem due_without (plan mirror : Plan) (hnone : mirror.settings.ignored = [])
    (owner : Composite) :
    mirror.due (inOrder (owner.without plan.settings.ignored)) = plan.due (inOrder owner) := by
  rw [due_of_none_ignored hnone]
  exact inOrder_filter (fun property => !plan.settings.ignores property.name) owner

end Plan

theorem Catalog.mirrors_without {catalog : Catalog} {registry : Registry} {settings : Settings}
    {scope : String} :
    Plan.Mirrors (catalog.changing (·.without settings.ignored) Eq)
      ⟨catalog, registry, settings, scope⟩
      ⟨catalog.without settings.ignored, registry, { settings with ignored := [] }, scope⟩ := by
  have hplace := Composite.inPlace_without settings.ignored
  refine hplace.mirrors (fun _ _ => rfl) rfl fun owner args _ hargs => ?_
  intro plan mirror
  rw [Plan.due_without plan mirror rfl owner]
  refine List.forall₂_same.2 fun property _ => ?_
  have hread : plan.catalog.qualifyIn owner.module property.ty =
      mirror.catalog.qualifyIn owner.module property.ty := by rw [hplace.qualifyIn catalog]
  exact (hplace.namesMirror fun _ _ => rfl).treats (fun _ => rfl) hargs rfl rfl hread (Ty.built _)

/-- A fixture is the same as that of the catalogue without the properties that are to be ignored,
where none is to be ignored any more: the same events, the same result or failure, and the same
supply is left. -/
theorem fixture_without_ignored (catalog : Catalog) (registry : Registry) (settings : Settings)
    (supply : Supply) (root : String) :
    catalog.fixture registry settings supply root =
      (catalog.without settings.ignored).fixture registry { settings with ignored := [] } supply
        root :=
  (Outcome.agree_fixture (fun _ => catalog.mirrors_without) rfl trivial supply).eq

/-- A link of a chain holds another link, which cannot be constructed unless it is ignored. -/
def chain : Catalog where
  definitions := [.composite ⟨"Link", "pl", [], [⟨"next", .named "Link", none, some "setNext"⟩]⟩]

example :
    (chain.fixture .builtin {} (.seeded 0) "pl.Link").result =
        .error ⟨.cycle "pl.Link", [⟨"Link", "next"⟩]⟩ ∧
      (chain.fixture .builtin { ignored := ["next"] } (.seeded 0) "pl.Link").result =
        .ok "link" := by
  decide +kernel

end Fixture

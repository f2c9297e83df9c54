import Fixture.Proofs.Construction.Course
import Fixture.Proofs.Ledger
import Fixture.Proofs.Obstacle

/-!
# Roots that are simple

A root of a simple type needs no more than one variable with a literal. But before anything else a
scope is derived from the root where the settings have none, and for that the root is looked up in
the catalogue. So a root that several definitions share as their name fails although a kind of that
name is registered; every other simple root is one declaration.
-/

namespace Fixture

variable {σ : Type} [Sink σ] {catalog : Catalog} {registry : Registry} {settings : Settings}
  {supply : Supply} {root : String}

/-- The declaration of one variable with a literal of the root, or the obstacle to the literal. -/
def Registry.declareRoot (σ : Type) [Sink σ] (registry : Registry) (catalog : Catalog)
    (supply : Supply) (root : String) : Delivery σ :=
  match (registry.literal catalog root).run.run supply with
  | (.ok literal, after) =>
    let name := Name.uncapitalize (Name.simple root)
    ⟨.ok name, Sink.accept Sink.fresh (.declare (Name.simple root) name literal), after⟩
  | (.error obstacle, after) => ⟨.error { obstacle }, Sink.fresh, after⟩

theorem Registry.declareRoot_error (hsimple : registry.isSimple catalog root = true)
    {failure : Failure} (h : (registry.declareRoot σ catalog supply root).result = .error failure) :
    ∃ enumeration, catalog.lookup root = .ok (some (.enumeration enumeration)) ∧
      enumeration.members = [] ∧ failure = ⟨.emptyEnumeration enumeration.qualifiedName, []⟩ ∧
        registry.declareRoot σ catalog supply root = ⟨.error failure, Sink.fresh, supply⟩ := by
  rcases hliteral : (registry.literal catalog root).run.run supply with ⟨obstacle | literal, after⟩
  · have hdeclared : registry.declareRoot σ catalog supply root =
        ⟨.error { obstacle }, Sink.fresh, after⟩ := by
      rw [declareRoot, hliteral]
    rw [hdeclared] at h
    cases h
    let plan : Plan := ⟨catalog, registry, {}, ""⟩
    have hdraw : plan.draw root supply = (.error obstacle, after) := hliteral
    have hplan : plan.isSimple root = true := hsimple
    obtain ⟨enumeration, hlookup, hmembers, rfl, rfl⟩ := Plan.emptyEnumeration_of_draw hplan hdraw
    exact ⟨enumeration, hlookup, hmembers, rfl, hdeclared⟩
  · rw [declareRoot, hliteral] at h
    cases h

theorem Registry.registered_of_ambiguous (hsimple : registry.isSimple catalog root = true)
    {obstacle : Obstacle} (h : catalog.lookup root = .error obstacle) :
    (registry.registered? root).isSome = true := by
  cases hregistered : registry.registered? root with
  | some strategy => rfl
  | none => simp [isSimple, strategy?, Catalog.isEnumeration, hregistered, h] at hsimple

theorem exists_effectiveScope_iff :
    (∃ scope, effectiveScope catalog settings root = .ok scope) ↔
      settings.scope.isSome = true ∨ ∀ obstacle, catalog.lookup root ≠ .error obstacle := by
  rw [effectiveScope]
  cases settings.scope with
  | some scope => simp
  | none =>
    rw [moduleOfRoot]
    rcases catalog.lookup root with obstacle | _ | definition <;> simp

theorem Plan.outcome_construct_simple (plan : Plan) {raw : String}
    (hsimple : plan.isSimple raw = true) (room : Nat) (path : List String) (args : List Ty)
    (progress : Progress σ) :
    let issued := progress.ledger.issue (variableBase raw)
    Construction.outcome (plan.construct room path raw args) progress =
      match plan.draw raw progress.supply with
      | (.ok text, after) =>
        (.ok issued.1, ⟨after, issued.2,
          Sink.accept progress.sink (.declare (Name.simple raw) issued.1 text)⟩)
      | (.error obstacle, after) => (.error { obstacle }, ⟨after, issued.2, progress.sink⟩) := by
  intro issued
  have hissue : Construction.outcome (Construction.issue (variableBase raw)) progress =
      (.ok issued.1, { progress with ledger := issued.2 }) := rfl
  rw [construct_simple plan room path raw args hsimple, Construction.outcome_bind_ok hissue,
    constructSimple, Construction.outcome_bind, outcome_literal]
  rcases plan.draw raw progress.supply with ⟨_ | _, _⟩ <;> rfl

theorem deliver_of_simple (hsimple : registry.isSimple catalog root = true) {scope : String}
    (hscope : effectiveScope catalog settings root = .ok scope) :
    catalog.deliver σ registry settings supply root =
      registry.declareRoot σ catalog supply root := by
  rw [deliver_of_scope catalog registry settings supply root hscope,
    Plan.outcome_construct_simple ⟨catalog, registry, settings, scope⟩ hsimple,
    Ledger.issue_fresh, Registry.declareRoot, Plan.draw]
  rcases (registry.literal catalog root).run.run supply with ⟨_ | _, _⟩ <;> rfl

/-- A simple root is one declaration of a variable after its simple name, with the literal that the
registry draws from the supply, unless there is no scope: that is when the settings have none and
the root is ambiguous. Where it is one declaration, it can only fail for an enumeration without
members, and nothing is emitted or drawn then. Where there is no scope, nothing is emitted or drawn
either, though the root is registered as it stands. -/
theorem deliver_simple_root (registry : Registry) (catalog : Catalog) (settings : Settings)
    (supply : Supply) (root : String) (hsimple : registry.isSimple catalog root = true) :
    let declared := registry.declareRoot σ catalog supply root
    let delivered := catalog.deliver σ registry settings supply root
    (delivered = declared ↔
      settings.scope.isSome = true ∨ ∀ obstacle, catalog.lookup root ≠ .error obstacle) ∧
    (∀ failure, declared.result = .error failure →
      ∃ enumeration, catalog.lookup root = .ok (some (.enumeration enumeration)) ∧
        enumeration.members = [] ∧ failure = ⟨.emptyEnumeration enumeration.qualifiedName, []⟩ ∧
          declared = ⟨.error failure, Sink.fresh, supply⟩) ∧
    (settings.scope = none → ∀ obstacle, catalog.lookup root = .error obstacle →
      delivered = ⟨.error ⟨obstacle, []⟩, Sink.fresh, supply⟩ ∧
        (∃ candidates, obstacle = .ambiguousName root candidates) ∧
          (registry.registered? root).isSome = true) := by
  intro declared delivered
  refine ⟨?_, fun failure => Registry.declareRoot_error hsimple, ?_⟩
  · rw [← exists_effectiveScope_iff]
    constructor
    · intro heq
      cases hscope : effectiveScope catalog settings root with
      | ok scope => exact ⟨scope, rfl⟩
      | error obstacle =>
        have hnone : delivered = ⟨.error { obstacle }, Sink.fresh, supply⟩ :=
          deliver_of_no_scope catalog registry settings supply root hscope
        have hresult : declared.result = .error { obstacle } := by
          rw [← heq, hnone]
        obtain ⟨enumeration, -, -, hempty, -⟩ := Registry.declareRoot_error hsimple hresult
        obtain ⟨candidates, rfl⟩ := ambiguousName_of_effectiveScope hscope
        cases hempty
    · rintro ⟨scope, hscope⟩
      exact deliver_of_simple hsimple hscope
  · intro hnone obstacle hlookup
    have hscope : effectiveScope catalog settings root = .error obstacle := by
      rw [effectiveScope, hnone]
      simp only [moduleOfRoot, hlookup]
    exact ⟨deliver_of_no_scope catalog registry settings supply root hscope,
      Catalog.lookup_error hlookup, Registry.registered_of_ambiguous hsimple hlookup⟩

/-- Two types with the name of a kind. -/
def twoDates : Catalog :=
  { definitions := [.composite ⟨"Date", "sky", [], []⟩, .composite ⟨"Date", "week", [], []⟩] }

theorem deliver_simple_root_dates :
    Registry.builtin.isSimple twoDates "Date" = true ∧
      twoDates.deliver Log .builtin { scope := some "week" } (.seeded 0) "Date" =
        Registry.builtin.declareRoot Log twoDates (.seeded 0) "Date" ∧
      (Registry.builtin.declareRoot Log twoDates (.seeded 0) "Date").result.toOption =
        some "date" := by
  have hsimple : Registry.builtin.isSimple twoDates "Date" = true := by decide +kernel
  obtain ⟨hdeclared, -⟩ := deliver_simple_root (σ := Log) .builtin twoDates
    { scope := some "week" } (.seeded 0) "Date" hsimple
  exact ⟨hsimple, hdeclared.2 (.inl rfl), by decide +kernel⟩

/-- Without a scope, the name of the kind could be that of either type, and the root fails. -/
theorem deliver_dates :
    Registry.builtin.isSimple twoDates "Date" = true ∧
      twoDates.deliver Log .builtin {} (.seeded 0) "Date" =
        ⟨.error ⟨.ambiguousName "Date" ["sky.Date", "week.Date"], []⟩, #[], .seeded 0⟩ := by
  have hscope : effectiveScope twoDates {} "Date" =
      .error (.ambiguousName "Date" ["sky.Date", "week.Date"]) := by
    rw [effectiveScope, moduleOfRoot, Catalog.lookup]
    rfl
  exact ⟨by decide +kernel, deliver_of_no_scope _ _ _ _ _ hscope⟩

end Fixture

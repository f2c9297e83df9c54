import Fixture.Proofs.Construction.Trail
import Fixture.Proofs.Scope

/-!
# Wider limits

The scope and the greatest depth are asked only when a composite is to be entered, and all they can
do is to stop the construction. So a construction with wider limits takes the same steps as one with
narrower limits, up to the first place where only the narrower ones stop it; and from there on its
outline only grows.
-/

namespace Fixture

open StateTransition

/-- Settings that allow for a root whatever others allow: they differ in nothing but the limits, and
their scope and their depth are at least as wide. -/
structure Settings.Relaxed (catalog : Catalog) (root : String) (settings relaxed : Settings) :
    Prop where
  seed : relaxed.seed = settings.seed
  ignored : relaxed.ignored = settings.ignored
  maxDepth : settings.maxDepth ≤ relaxed.maxDepth
  scope : ∀ scope, effectiveScope catalog settings root = .ok scope →
    ∃ wide, effectiveScope catalog relaxed root = .ok wide ∧ Name.Encloses wide scope

theorem Settings.Relaxed.of_scope {catalog : Catalog} {root : String} {settings relaxed : Settings}
    (hseed : relaxed.seed = settings.seed) (hignored : relaxed.ignored = settings.ignored)
    (hdepth : settings.maxDepth ≤ relaxed.maxDepth)
    (hscope : relaxed.scope = settings.scope ∨ ∃ wide, relaxed.scope = some wide ∧
      ∀ scope, effectiveScope catalog settings root = .ok scope → Name.Encloses wide scope) :
    Settings.Relaxed catalog root settings relaxed := by
  refine ⟨hseed, hignored, hdepth, fun scope hforce => ?_⟩
  rcases hscope with hsame | ⟨wide, hwide, hencloses⟩
  · have heffective : effectiveScope catalog relaxed root = .ok scope := by
      rw [← hforce, effectiveScope, effectiveScope, hsame]
    exact ⟨scope, heffective, .refl scope⟩
  · have heffective : effectiveScope catalog relaxed root = .ok wide := by
      rw [effectiveScope, hwide]
    exact ⟨wide, heffective, hencloses scope hforce⟩

namespace Plan

/-- A plan with limits that are at least as wide. -/
structure Relaxed (plan relaxed : Plan) : Prop where
  catalog : relaxed.catalog = plan.catalog
  registry : relaxed.registry = plan.registry
  ignored : relaxed.settings.ignored = plan.settings.ignored
  maxDepth : plan.settings.maxDepth ≤ relaxed.settings.maxDepth
  scope : Name.Encloses relaxed.scope plan.scope

variable {plan relaxed : Plan} {root : String} {walk next last : Walk}

/-! ### One step under wider limits -/

theorem takeProperty_congr (hcatalog : relaxed.catalog = plan.catalog)
    (hregistry : relaxed.registry = plan.registry)
    (hignored : relaxed.settings.ignored = plan.settings.ignored) :
    relaxed.takeProperty = plan.takeProperty := by
  obtain ⟨catalog, registry, settings, scope⟩ := plan
  obtain ⟨_, _, wider, wide⟩ := relaxed
  obtain rfl : _ = catalog := hcatalog
  obtain rfl : _ = registry := hregistry
  have hignores : wider.ignores = settings.ignores := by
    funext property
    exact congrArg (List.contains · property) hignored
  funext walk site property rest
  show (if wider.ignores property.name then _ else _) =
    (if settings.ignores property.name then _ else _)
  rw [hignores]
  rfl

namespace Relaxed

theorem composite (h : plan.Relaxed relaxed) {raw : String} {owner : Composite}
    (howner : plan.composite raw = .ok owner) : relaxed.composite raw = .ok owner := by
  unfold Plan.composite at howner ⊢
  rw [h.catalog]
  split at howner
  · cases howner
  · split at howner
    · next hscope =>
      have hwide := inScope_iff.2 (h.scope.trans (inScope_iff.1 hscope))
      rw [if_pos hwide]
      exact howner
    · cases howner
  · cases howner

theorem enter (h : plan.Relaxed relaxed) {raw : String} {args : List Ty} {path : List String}
    {owner : Composite} (howner : plan.enter raw args path = .ok owner) :
    relaxed.enter raw args path = .ok owner := by
  obtain ⟨hcomposite, hmay⟩ := enter_ok howner
  rw [Plan.enter, h.composite hcomposite]
  simp only [hmay]
  rfl

/-- Only where a composite is to be entered do the limits matter, and then the narrower ones stop
the walk. -/
theorem takeValue (h : plan.Relaxed relaxed) (walk : Walk) (raw : String) (args : List Ty) :
    relaxed.takeValue walk raw args = plan.takeValue walk raw args ∨
      ∃ failure, (plan.takeValue walk raw args).task = .failed failure ∧
        (plan.takeValue walk raw args).outline = walk.outline := by
  have hsimple : relaxed.isSimple raw = plan.isSimple raw := by
    rw [isSimple, isSimple, h.catalog, h.registry]
  have hinscribe : ∀ slot, relaxed.inscribe slot raw = plan.inscribe slot raw := by
    intro slot
    rw [inscribe, inscribe, memberOf, memberOf, h.catalog, h.registry]
  rw [Plan.takeValue, Plan.takeValue, hsimple]
  rcases walk.ledger.issue (variableBase raw) with ⟨target, ledger⟩
  cases plan.isSimple raw with
  | true =>
    left
    simp only [if_true, hinscribe]
  | false =>
    simp only [Bool.false_eq_true, if_false]
    cases henter : plan.enter raw args walk.path with
    | error obstacle => exact .inr ⟨_, rfl, List.append_nil _⟩
    | ok owner =>
      simp only [h.enter henter]
      by_cases hdepth : plan.settings.maxDepth ≤ walk.path.length
      · simp only [if_pos hdepth]
        exact .inr ⟨_, rfl, List.append_nil _⟩
      · by_cases hwide : relaxed.settings.maxDepth ≤ walk.path.length
        · exact absurd (Nat.le_trans h.maxDepth hwide) hdepth
        · left
          simp only [if_neg hdepth, if_neg hwide]

theorem step (h : plan.Relaxed relaxed) (hstep : plan.step walk = some next) :
    relaxed.step walk = some next ∨
      ∃ failure, next.task = .failed failure ∧ next.outline = walk.outline := by
  unfold Plan.step at hstep ⊢
  split at hstep
  · cases hstep
    exact (h.takeValue walk _ _).imp_left (congrArg some)
  · exact .inl hstep
  · rw [takeProperty_congr h.catalog h.registry h.ignored]
    exact .inl hstep
  · exact .inl hstep
  · exact .inl hstep
  · cases hstep
  · cases hstep

end Relaxed

/-! ### The outline from step to step -/

theorem outline_takeValue (walk : Walk) (raw : String) (args : List Ty) :
    walk.outline <+: (plan.takeValue walk raw args).outline := by
  rw [takeValue]
  rcases walk.ledger.issue (variableBase raw) with ⟨target, ledger⟩
  dsimp only
  split
  · split <;> exact List.prefix_append _ _
  · split
    · exact List.prefix_append _ _
    · split <;> exact List.prefix_append _ _

theorem outline_takeShape (walk : Walk) (site : Site) (property : Property) (rest : List Property)
    (writer : String) (shape : Shape) :
    walk.outline <+: (plan.takeShape walk site property rest writer shape).outline := by
  cases shape with
  | simple name =>
    rw [takeShape]
    split
    · exact List.prefix_refl _
    · split <;> exact List.prefix_append _ _
  | collection kind element =>
    rw [takeShape]
    rcases walk.ledger.issue property.name with ⟨collection, ledger⟩
    dsimp only
    split
    · split <;> exact (List.prefix_append _ _).trans (List.prefix_append _ _)
    · exact List.prefix_append _ _
  | composite raw args => exact List.prefix_refl _

theorem outline_step (hstep : plan.step walk = some next) : walk.outline <+: next.outline := by
  unfold step at hstep
  split at hstep
  · cases hstep
    exact outline_takeValue walk _ _
  · cases hstep
    exact List.prefix_refl _
  · next site property rest _ =>
    cases hstep
    rw [takeProperty]
    split
    · exact List.prefix_append _ _
    · split
      · exact List.prefix_append _ _
      · exact outline_takeShape walk _ _ _ _ _
  · cases hstep
    exact List.prefix_append _ _
  · cases hstep
    exact List.prefix_append _ _
  · cases hstep
  · cases hstep

theorem outline_of_reaches (h : Reaches plan.step walk last) : walk.outline <+: last.outline := by
  induction h with
  | refl => exact List.prefix_refl _
  | tail _ hstep ih => exact ih.trans (outline_step hstep)

/-! ### The whole walk under wider limits -/

/-- Under wider limits a walk comes to the same moment, or the narrower ones have stopped it and it
comes to where they did. -/
theorem Relaxed.reaches (h : plan.Relaxed relaxed) (hwalk : Reaches plan.step (.start root) walk) :
    Reaches relaxed.step (.start root) walk ∨
      ∃ stopped, Reaches relaxed.step (.start root) stopped ∧
        (∃ failure, walk.task = .failed failure) ∧ walk.outline = stopped.outline := by
  induction hwalk with
  | refl => exact .inl .refl
  | tail _ hstep ih =>
    rcases ih with hsame | ⟨stopped, hstopped, ⟨failure, htask⟩, houtline⟩
    · rcases h.step hstep with hnext | ⟨failure, htask, houtline⟩
      · exact .inl (hsame.tail hnext)
      · exact .inr ⟨_, hsame, ⟨failure, htask⟩, houtline⟩
    · obtain ⟨hfailed, -, hquiet⟩ := step_of_failed htask hstep
      exact .inr ⟨stopped, hstopped, hfailed, hquiet.trans houtline⟩

end Plan

theorem Sketch.prefix_realizeAll {first second : List Sketch} (h : first <+: second)
    (supply : Supply) : (realizeAll supply first).1 <+: (realizeAll supply second).1 := by
  obtain ⟨more, rfl⟩ := h
  rcases hfirst : realizeAll supply first with ⟨events, middle⟩
  rcases hmore : realizeAll middle more with ⟨later, after⟩
  rw [realizeAll_append hfirst hmore]
  exact List.prefix_append _ _

variable {catalog : Catalog} {settings relaxed : Settings} {root : String}

/-- Wider limits change nothing of what was generated within narrower ones: the events of a fixture
are the first of those that it has under wider limits, and if it succeeds, it is the same under
them. -/
theorem fixture_relaxed (h : Settings.Relaxed catalog root settings relaxed) (registry : Registry)
    (supply : Supply) :
    let narrow := catalog.fixture registry settings supply root
    let wide := catalog.fixture registry relaxed supply root
    narrow.events <+: wide.events ∧ ∀ name, narrow.result = .ok name → wide = narrow := by
  intro narrow wide
  cases hscope : effectiveScope catalog settings root with
  | error obstacle =>
    have hnarrow : narrow = ⟨.error { obstacle }, [], supply⟩ :=
      fixture_of_no_scope catalog registry settings supply root hscope
    rw [hnarrow]
    exact ⟨List.nil_prefix, fun name hname => by cases hname⟩
  | ok scope =>
    obtain ⟨wideScope, hwideScope, hencloses⟩ := h.scope scope hscope
    obtain ⟨last, result, hlast, haccounts⟩ := exists_walk registry hscope
    obtain ⟨wideLast, wideResult, hwideLast, hwideAccounts⟩ := exists_walk registry hwideScope
    have hnarrow : narrow = _ := haccounts.fixture_eq supply
    have hwide : wide = _ := hwideAccounts.fixture_eq supply
    have hrelaxed : Plan.Relaxed ⟨catalog, registry, settings, scope⟩
        ⟨catalog, registry, relaxed, wideScope⟩ := ⟨rfl, rfl, h.ignored, h.maxDepth, hencloses⟩
    rw [hnarrow, hwide]
    rcases hrelaxed.reaches (mem_eval.1 hlast).1 with hsame | ⟨stopped, hstopped, hfailed, houtline⟩
    · obtain rfl := Plan.eq_last hwideLast hsame haccounts.task haccounts.pending
      obtain rfl := Task.ofResult_injective (haccounts.task.symm.trans hwideAccounts.task)
      exact ⟨List.prefix_refl _, fun _ _ => rfl⟩
    · have hprefix := Plan.outline_of_reaches (Plan.reaches_last hwideLast hstopped)
      rw [← houtline] at hprefix
      refine ⟨Sketch.prefix_realizeAll hprefix supply, fun name hname => ?_⟩
      obtain rfl : result = .ok name := hname
      obtain ⟨failure, htask⟩ := hfailed
      cases haccounts.task.symm.trans htask

/-- A house with a garden in the module around its own. -/
def yard : Catalog where
  definitions := [
    .composite ⟨"House", "pl.home", [], [
      ⟨"door", .named "String", none, some "setDoor"⟩,
      ⟨"garden", .named "pl.Garden", none, some "setGarden"⟩]⟩,
    .composite ⟨"Garden", "pl", [], [⟨"trees", .named "int", none, some "setTrees"⟩]⟩]

theorem fixture_relaxed_yard :
    let within (settings : Settings) := yard.fixture .builtin settings (.seeded 0) "pl.home.House"
    (within {}).result = .error ⟨.unsupportedType "pl.Garden", [⟨"House", "garden"⟩]⟩ ∧
      (within {}).events <+: (within { scope := some "pl" }).events ∧
      (within { scope := some "pl", maxDepth := 2 }).result = .ok "house" ∧
      within { scope := some "", maxDepth := 3 } =
        within { scope := some "pl", maxDepth := 2 } := by
  intro within
  have hhome : effectiveScope yard {} "pl.home.House" = .ok "pl.home" := rfl
  have hpl : Name.Encloses "pl" "pl.home" := .inr (by decide +kernel)
  have hnarrow : Settings.Relaxed yard "pl.home.House" {} { scope := some "pl" } := by
    refine .of_scope rfl rfl (Nat.le_refl _) (.inr ⟨"pl", rfl, fun scope hscope => ?_⟩)
    obtain rfl : "pl.home" = scope := Except.ok.inj (hhome.symm.trans hscope)
    exact hpl
  have hwide : Settings.Relaxed yard "pl.home.House" { scope := some "pl", maxDepth := 2 }
      { scope := some "", maxDepth := 3 } :=
    .of_scope rfl rfl (by decide) (.inr ⟨"", rfl, fun _ _ => .inl rfl⟩)
  have hfails : (within {}).result =
      .error ⟨.unsupportedType "pl.Garden", [⟨"House", "garden"⟩]⟩ := by decide +kernel
  have hdone : (within { scope := some "pl", maxDepth := 2 }).result = .ok "house" := by
    decide +kernel
  exact ⟨hfails, (fixture_relaxed hnarrow .builtin (.seeded 0)).1, hdone,
    (fixture_relaxed hwide .builtin (.seeded 0)).2 "house" hdone⟩

end Fixture

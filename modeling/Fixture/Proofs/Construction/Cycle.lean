import Fixture.Proofs.Catalog.Legible
import Fixture.Proofs.Construction.Origin

/-!
# What a reported cycle is

Constructions on a path are told apart by their keys, which spell types with simple names. So a
construction that ends with a cycle was about to enter a composite while one with the same key was
open. Where keys are legible this is the same composite, and the arguments are the same up to the
modules of their names; but they may be different types, and then the ways through the catalogue can
have an end although a cycle was reported.
-/

namespace Fixture

variable {catalog : Catalog} {registry : Registry} {settings : Settings} {supply : Supply}
  {root : String}

theorem effectiveScope_error {obstacle : Obstacle}
    (h : effectiveScope catalog settings root = .error obstacle) : obstacle.onPath = false :=
  obstacle.onPath_of_ofType (ofType_of_effectiveScope h)

namespace Making

variable (making : Making catalog registry settings supply root) {part : Part making.plan}
  {site : Site} {entered : Binding}

theorem plan_eq {scope : String} (hscope : effectiveScope catalog settings root = .ok scope) :
    making.plan = ⟨catalog, registry, settings, scope⟩ := by
  rw [plan, Except.ok.inj (making.scope_eq.symm.trans hscope)]

theorem path_of_enters (hpart : making.whole.Within part) (henters : part.Enters entered) :
    making.plan.Path root (part.sites.map Site.binding) entered := by
  obtain ⟨raw, args, hjob, hopens⟩ := henters
  have hlocated := making.located hpart
  rw [hjob] at hlocated
  exact hlocated entered hopens

/-- Every open composite has put one frame in front of the trail of a failure that comes from
entering another. -/
theorem length_sites (hpart : making.whole.Within part) (henters : part.Enters entered)
    {obstacle : Obstacle} (hfailed : part.result = .error { obstacle }) {failure : Failure}
    (hresult : making.whole.result = .error failure) :
    part.sites.length = failure.trail.length := by
  obtain ⟨raw, args, hjob, -⟩ := henters
  obtain ⟨frames, hwhole, hlength⟩ := hpart.failure_eq hfailed
  obtain rfl := Except.error.inj (hresult.symm.trans hwhole)
  have hstart : making.whole.sites.length = 0 := rfl
  have hroot : making.whole.job.frames = 0 := rfl
  have henters : part.job.frames = 0 := by rw [hjob, Job.frames]
  rw [List.append_nil]
  show part.sites.length = frames.length
  omega

theorem eq_of_key (hlawful : catalog.Lawful) (hcatalog : catalog.Legible)
    (hpart : making.whole.Within part) (henters : part.Enters entered) (hsite : site ∈ part.sites)
    (hkey : site.key = Plan.key entered.owner entered.args) :
    site.owner = entered.owner ∧
      site.args.map (Ty.mapNames Name.simple) = entered.args.map (Ty.mapNames Name.simple) := by
  obtain ⟨raw, args, hjob, hopens⟩ := henters
  have hargs := making.follows hcatalog.types hpart
  rw [hjob] at hargs
  refine hcatalog.eq_of_key hlawful (making.mem_of_mem_sites hpart hsite)
    (Plan.mem_of_composite hopens.composite)
    (making.follows_of_mem_sites hcatalog.types hpart hsite) ?_ hkey
  rw [hopens.args]
  exact hargs

end Making

/-- When a fixture ends with a cycle, a composite was to be entered whose key is that of an open
one. Where keys are legible, as they are in a catalogue from documents unless the name of a
definition has an angle bracket, it is the same composite, and the arguments are the same up to the
modules of names. Where all ways from the root come to an end, the arguments are not the same
nevertheless. -/
theorem fixture_cycle (hcatalog : catalog.Reachable) {key : String} {trail : List Frame}
    (hresult : (catalog.fixture registry settings supply root).result =
      .error ⟨.cycle key, trail⟩) :
    ∃ (making : Making catalog registry settings supply root) (part : Part making.plan)
      (entered : Binding) (site : Site),
      making.whole.Within part ∧ part.Enters entered ∧
      part.result = .error { obstacle := .cycle key } ∧ part.sites.length = trail.length ∧
      making.plan.Path root (part.sites.map Site.binding) entered ∧
      site ∈ part.sites ∧ Plan.key entered.owner entered.args = key ∧ site.key = key ∧
      (catalog.Legible ∨ catalog.Loaded ∧
          (∀ definition ∈ catalog.definitions, '<' ∉ definition.qualifiedName.toList) →
        site.owner = entered.owner ∧
          site.args.map (Ty.mapNames Name.simple) =
            entered.args.map (Ty.mapNames Name.simple)) ∧
      ((∀ top, making.plan.Opens root [] top → making.plan.Finite top) →
        site.binding ≠ entered) := by
  cases hscope : effectiveScope catalog settings root with
  | error obstacle =>
    rw [fixture_of_no_scope catalog registry settings supply root hscope] at hresult
    cases hresult
    cases effectiveScope_error hscope
  | ok scope =>
    obtain ⟨making, -⟩ := exists_making catalog registry settings supply root hscope
    -- The trail grows on the way out, but the obstacle stays that of the part where it was met.
    obtain ⟨part, hpart, hobstacle⟩ := making.course.exists_origin (making.result_eq ▸ hresult)
    obtain ⟨hfailed, entered, henters, hkey, site, hsite, hsame⟩ := Part.cycle_of_obstacle hobstacle
    have hpath := making.path_of_enters hpart henters
    refine ⟨making, part, entered, site, hpart, henters, hfailed, ?_, hpath, hsite, hkey, hsame,
      fun hlegible => ?_, fun hroot heq => ?_⟩
    · exact making.length_sites hpart henters hfailed (making.result_whole.trans hresult)
    · have hlegible : catalog.Legible := hlegible.elim id fun hloaded => hloaded.1.legible hloaded.2
      exact making.eq_of_key hcatalog.lawful hlegible hpart henters hsite (hsame.trans hkey.symm)
    · exact hpath.not_mem hroot (heq ▸ List.mem_map_of_mem hsite)

/-! ### Cycles that are none -/

/-- A fixture of the catalogue ends with a cycle, although all ways from the root come to an end
early enough, and no open composite is the one to be entered with the same arguments. -/
structure Catalog.Misreports (catalog : Catalog) (root key : String) : Prop where
  reachable : catalog.Reachable
  reported : ∃ trail,
    (catalog.fixture .builtin {} (.seeded 0) root).result = .error ⟨.cycle key, trail⟩
  ends : ∀ making : Making catalog .builtin {} (.seeded 0) root,
    ∀ top, making.plan.Opens root [] top → making.plan.Ends making.plan.settings.maxDepth top
  not_open : ∀ making : Making catalog .builtin {} (.seeded 0) root, ∀ part entered,
    making.whole.Within part → part.Enters entered → ∀ site ∈ part.sites, site.binding ≠ entered

theorem Catalog.misreports_of_ends {key scope : String} {trail : List Frame} {depth : Nat}
    (hreachable : catalog.Reachable)
    (hresult : (catalog.fixture .builtin {} (.seeded 0) root).result = .error ⟨.cycle key, trail⟩)
    (hscope : effectiveScope catalog {} root = .ok scope)
    (hends : ∀ top, Plan.Opens ⟨catalog, .builtin, {}, scope⟩ root [] top →
      Plan.Ends ⟨catalog, .builtin, {}, scope⟩ depth top)
    (hdepth : depth ≤ ({} : Settings).maxDepth) : catalog.Misreports root key := by
  have hroot : ∀ making : Making catalog .builtin {} (.seeded 0) root, ∀ top,
      making.plan.Opens root [] top → making.plan.Ends depth top := by
    intro making
    rw [making.plan_eq hscope]
    exact hends
  refine ⟨hreachable, ⟨trail, hresult⟩, fun making top htop => ?_, ?_⟩
  · exact (hroot making top htop).mono hdepth
  · intro making part entered hpart henters site hsite heq
    have hpath := making.path_of_enters hpart henters
    exact hpath.not_mem (fun top htop => (hroot making top htop).finite)
      (heq ▸ List.mem_map_of_mem hsite)

/-- A box with a type in it that has itself a box with the other type of the same name. -/
def twins : Catalog where
  definitions := [
    .composite ⟨"Root", "pl", [], [⟨"p", .applied "Box" [.named "pl.a.Foo"], none, some "setP"⟩]⟩,
    .composite ⟨"Box", "pl", ["T"], [⟨"value", .param "T", none, some "setValue"⟩]⟩,
    .composite ⟨"Foo", "pl.a", [],
      [⟨"inner", .applied "pl.Box" [.named "pl.b.Foo"], none, some "setInner"⟩]⟩,
    .composite ⟨"Foo", "pl.b", [], []⟩]

theorem twins_reachable : twins.Reachable :=
  .ofDefinitions (rfl : Catalog.ofDefinitions twins.definitions = .ok twins)

theorem twins_result : (twins.fixture .builtin {} (.seeded 0) "pl.Root").result =
    .error ⟨.cycle "pl.Box<Foo>", [⟨"Root", "p"⟩, ⟨"Box", "value"⟩, ⟨"Foo", "inner"⟩]⟩ := by
  decide +kernel

theorem twins_ends {top : Binding}
    (htop : Plan.Opens ⟨twins, .builtin, {}, "pl"⟩ "pl.Root" [] top) :
    Plan.Ends ⟨twins, .builtin, {}, "pl"⟩ 5 top := by
  obtain ⟨owner, args⟩ := top
  obtain rfl : args = [] := htop.args
  cases htop.composite
  refine Plan.Ends.of_only_property ?_ rfl rfl rfl
  refine Plan.Ends.of_only_property ?_ rfl rfl rfl
  refine Plan.Ends.of_only_property ?_ rfl rfl rfl
  refine Plan.Ends.of_only_property ?_ rfl rfl rfl
  exact Plan.ends_of_no_properties rfl

theorem twins_legible : twins.Legible := by
  have hplain : ∀ name ∈ ["Box", "pl.a.Foo", "pl.Box", "pl.b.Foo"], Name.Plain name := by
    decide +kernel
  have hboxed : ∀ box ∈ ["Box", "pl.Box"], ∀ name ∈ ["pl.a.Foo", "pl.b.Foo"],
      (Ty.applied box [.named name]).Follows .plain True := by
    intro box hbox name hname
    refine .applied (hplain box (by grind)) (List.forall_mem_singleton.2 ?_)
    exact .named (hplain name (by grind))
  refine ⟨by decide +kernel, List.forall_mem_cons.2 ⟨?_, List.forall_mem_cons.2 ⟨?_,
    List.forall_mem_cons.2 ⟨?_, List.forall_mem_singleton.2 ?_⟩⟩⟩⟩
  · exact List.forall_mem_singleton.2 (hboxed _ (by simp) _ (by simp))
  · exact List.forall_mem_singleton.2 (.param trivial)
  · exact List.forall_mem_singleton.2 (hboxed _ (by simp) _ (by simp))
  · exact List.forall_mem_nil _

theorem fixture_cycle_twins :
    ∃ (making : Making twins .builtin {} (.seeded 0) "pl.Root") (part : Part making.plan)
      (entered : Binding) (site : Site),
      making.whole.Within part ∧ part.Enters entered ∧ site ∈ part.sites ∧
      site.key = "pl.Box<Foo>" ∧ site.owner = entered.owner ∧
      site.args.map (Ty.mapNames Name.simple) = entered.args.map (Ty.mapNames Name.simple) ∧
      site.binding ≠ entered := by
  obtain ⟨making, part, entered, site, hpart, henters, -, -, -, hsite, -, hkey, hsame, hne⟩ :=
    fixture_cycle twins_reachable twins_result
  obtain ⟨howner, hargs⟩ := hsame (.inl twins_legible)
  refine ⟨making, part, entered, site, hpart, henters, hsite, hkey, howner, hargs, hne ?_⟩
  have hplan : making.plan = ⟨twins, .builtin, {}, "pl"⟩ := making.plan_eq rfl
  rw [hplan]
  exact fun top htop => (twins_ends htop).finite

/-- A composite whose name is what another one and its argument are spelled like. -/
def shadow : Catalog where
  definitions := [
    .composite ⟨"Box<Leaf>", "pl", [],
      [⟨"p", .applied "pl.Box" [.named "Leaf"], none, some "setP"⟩]⟩,
    .composite ⟨"Box", "pl", ["T"], []⟩]

theorem shadow_result : (shadow.fixture .builtin {} (.seeded 0) "pl.Box<Leaf>").result =
    .error ⟨.cycle "pl.Box<Leaf>", [⟨"Box<Leaf>", "p"⟩]⟩ := by
  decide +kernel

theorem shadow_ends {top : Binding}
    (htop : Plan.Opens ⟨shadow, .builtin, {}, "pl"⟩ "pl.Box<Leaf>" [] top) :
    Plan.Ends ⟨shadow, .builtin, {}, "pl"⟩ 2 top := by
  obtain ⟨owner, args⟩ := top
  obtain rfl : args = [] := htop.args
  cases htop.composite
  refine Plan.Ends.of_only_property ?_ rfl rfl rfl
  exact Plan.ends_of_no_properties rfl

/-- Two pairs whose arguments are spelled alike, because there are commas in their names. -/
def crowd : Catalog where
  definitions := [
    .composite ⟨"Root", "pl", [],
      [⟨"p", .applied "Pair" [.named "A, B", .named "C"], none, some "setP"⟩]⟩,
    .composite ⟨"Pair", "pl", ["S", "T"], [⟨"first", .param "S", none, some "setFirst"⟩]⟩,
    .composite ⟨"A, B", "pl", [],
      [⟨"q", .applied "Pair" [.named "A", .named "B, C"], none, some "setQ"⟩]⟩,
    .composite ⟨"A", "pl", [], []⟩]

theorem crowd_result : (crowd.fixture .builtin {} (.seeded 0) "pl.Root").result =
    .error ⟨.cycle "pl.Pair<A, B, C>", [⟨"Root", "p"⟩, ⟨"Pair", "first"⟩, ⟨"A, B", "q"⟩]⟩ := by
  decide +kernel

theorem crowd_ends {top : Binding}
    (htop : Plan.Opens ⟨crowd, .builtin, {}, "pl"⟩ "pl.Root" [] top) :
    Plan.Ends ⟨crowd, .builtin, {}, "pl"⟩ 5 top := by
  obtain ⟨owner, args⟩ := top
  obtain rfl : args = [] := htop.args
  cases htop.composite
  refine Plan.Ends.of_only_property ?_ rfl rfl rfl
  refine Plan.Ends.of_only_property ?_ rfl rfl rfl
  refine Plan.Ends.of_only_property ?_ rfl rfl rfl
  refine Plan.Ends.of_only_property ?_ rfl rfl rfl
  exact Plan.ends_of_no_properties rfl

theorem cycle_misreported : twins.Misreports "pl.Root" "pl.Box<Foo>" ∧
    shadow.Misreports "pl.Box<Leaf>" "pl.Box<Leaf>" ∧
    crowd.Misreports "pl.Root" "pl.Pair<A, B, C>" := by
  refine ⟨?_, ?_, ?_⟩
  · exact Catalog.misreports_of_ends twins_reachable twins_result rfl (fun _ => twins_ends)
      (by decide)
  · exact Catalog.misreports_of_ends
      (.ofDefinitions (rfl : Catalog.ofDefinitions shadow.definitions = .ok shadow))
      shadow_result rfl (fun _ => shadow_ends) (by decide)
  · exact Catalog.misreports_of_ends
      (.ofDefinitions (rfl : Catalog.ofDefinitions crowd.definitions = .ok crowd))
      crowd_result rfl (fun _ => crowd_ends) (by decide)

end Fixture

import Fixture.Proofs.Construction.Origin
import Fixture.Proofs.Construction.Typing
import Fixture.Proofs.Scope

/-!
# Supported types

A variable is declared with a literal if its type is simple, and otherwise with the constructor of a
composite. The name of the type has to stand for that composite, and its module has to lie in the
scope that is in force. A name that is neither simple nor stands for such a composite is not
supported, unless it is ambiguous; and that is the only reason for which a fixture says so. Wherever
a literal is drawn, the name was found to be simple before, and then an enumeration without members
is all that can go wrong.
-/

namespace Fixture

namespace Plan

/-- A name stands for a composite, and the segments of its module begin with those of the scope. -/
structure Supports (plan : Plan) (name : String) (owner : Composite) : Prop where
  lookup : plan.catalog.lookup name = .ok (some (.composite owner))
  scope : Name.Encloses plan.scope owner.module

/-- A name that is neither simple nor ambiguous and for which there is no composite in scope. -/
structure Unsupported (plan : Plan) (name : String) : Prop where
  not_simple : plan.isSimple name = false
  not_ambiguous : ∃ found, plan.catalog.lookup name = .ok found
  not_composite : ∀ owner, ¬ plan.Supports name owner

variable {plan : Plan} {name : String} {obstacle : Obstacle}

theorem supports_of_composite {owner : Composite} (h : plan.composite name = .ok owner) :
    plan.Supports name owner := by
  have hlookup := lookup_of_composite h
  refine ⟨hlookup, ?_⟩
  rw [composite_of_lookup hlookup] at h
  by_cases hscope : inScope plan.scope owner.module = true
  · exact inScope_iff.1 hscope
  · rw [if_neg hscope] at h
    cases h

theorem composite_of_supports {owner : Composite} (h : plan.Supports name owner) :
    plan.composite name = .ok owner := by
  rw [composite_of_lookup h.lookup, if_pos (inScope_iff.2 h.scope)]

theorem composite_of_found {found : Option Definition}
    (hlookup : plan.catalog.lookup name = .ok found) (hnone : ∀ owner, ¬ plan.Supports name owner) :
    plan.composite name = .error (.unsupportedType name) := by
  rcases found with _ | owner | enumeration
  · rw [composite, hlookup]
  · rw [composite_of_lookup hlookup]
    apply if_neg
    intro hscope
    exact hnone owner ⟨hlookup, inScope_iff.1 hscope⟩
  · rw [composite, hlookup]

theorem of_composite_unsupported {other : String}
    (h : plan.composite name = .error (.unsupportedType other)) :
    other = name ∧ (∃ found, plan.catalog.lookup name = .ok found) ∧
      ∀ owner, ¬ plan.Supports name owner := by
  have hnone : ∀ owner, ¬ plan.Supports name owner := by
    intro owner hsupports
    rw [composite_of_supports hsupports] at h
    cases h
  cases hlookup : plan.catalog.lookup name with
  | error obstacle =>
    obtain ⟨candidates, rfl⟩ := Catalog.lookup_error hlookup
    rw [composite, hlookup] at h
    cases h
  | ok found =>
    rw [composite_of_found hlookup hnone] at h
    cases h
    exact ⟨rfl, ⟨found, rfl⟩, hnone⟩

theorem composite_of_enter_unsupported {raw : String} {args : List Ty} {path : List String}
    (h : plan.enter raw args path = .error (.unsupportedType name)) :
    plan.composite raw = .error (.unsupportedType name) := by
  unfold enter at h
  split at h
  · next hcomposite =>
    cases h
    exact hcomposite
  · rcases mayEnter_error (map_eq_error h) with ⟨-, heq⟩ | ⟨-, heq⟩ <;> cases heq

end Plan

/-! ### Literals are drawn of simple names -/

/-- If the job is to draw a literal, then of a simple name. -/
def Job.Drawable (plan : Plan) : Job → Prop
  | literal name => plan.isSimple name = true
  | _ => True

namespace Course

variable {plan : Plan} {sites : List Site} {job : Job} {before after : Stock}
  {result : Except Failure String} (course : Course plan sites job before result after)

theorem drawable_inner {child : Part plan} (hchild : child ∈ course.inner) :
    child.job.Drawable plan := by
  cases course with
  | simple raw args target result hissue hsimple drawn =>
    obtain rfl := List.mem_singleton.1 hchild
    exact hsimple
  | plain site property writer name result hdue hshape hparam drawn =>
    obtain rfl := List.mem_singleton.1 hchild
    obtain ⟨-, ty, -, hofTy⟩ := Plan.writerAndShape_ok hshape
    rcases Shape.ofTy_ok hofTy with ⟨_, _, -, heq⟩ | ⟨-, ⟨_, -, hsimple, heq⟩ | ⟨_, -, -, heq⟩ |
      ⟨_, _, -, heq⟩⟩
    · cases heq
    · cases heq
      exact hsimple
    · cases heq
    · cases heq
  | collection site property writer kind element name result hdue hshape hissue inside =>
    obtain rfl := List.mem_singleton.1 hchild
    show (plan.elementJob element).Drawable plan
    rw [Plan.elementJob]
    split
    · next hsimple => exact hsimple
    · trivial
  | composite | nested | stop =>
    obtain rfl := List.mem_singleton.1 hchild
    trivial
  | next site property rest result first others =>
    obtain rfl | rfl : child = first.part ∨ child = others.part := by simpa [inner] using hchild
    · trivial
    · trivial
  | _ => simp [inner] at hchild

end Course

namespace Part

variable {plan : Plan} {part : Part plan} {name : String}

theorem unsupported_of_obstacle (hdrawable : part.job.Drawable plan)
    (h : part.course.obstacle? = some (.unsupportedType name)) :
    ∃ args, part.job = .value name args ∧ plan.Unsupported name := by
  obtain ⟨sites, job, before, result, after, course⟩ := part
  cases course with
  | literal drawn result hdraw =>
    cases result with
    | ok text => cases h
    | error obstacle =>
      obtain rfl : obstacle = .unsupportedType name := Option.some.inj h
      obtain ⟨_, -, -, heq, -⟩ := Plan.emptyEnumeration_of_draw hdrawable hdraw
      cases heq
  | barred raw args target obstacle hissue hsimple henter =>
    obtain rfl : obstacle = .unsupportedType name := Option.some.inj h
    have hcomposite := Plan.composite_of_enter_unsupported henter
    obtain ⟨rfl, hfound, hnone⟩ := Plan.of_composite_unsupported hcomposite
    exact ⟨args, rfl, hsimple, hfound, hnone⟩
  | unfit site property obstacle hdue hshape =>
    obtain rfl : obstacle = .unsupportedType name := Option.some.inj h
    cases Plan.ofName_of_writerAndShape hshape
  | _ => cases h

theorem result_of_unsupported {args : List Ty} (hjob : part.job = .value name args)
    (h : plan.Unsupported name) : part.result = .error { obstacle := .unsupportedType name } := by
  obtain ⟨found, hlookup⟩ := h.not_ambiguous
  have hcomposite := Plan.composite_of_found hlookup h.not_composite
  have henter : ∀ path, plan.enter name args path = .error (.unsupportedType name) := by
    intro path
    rw [Plan.enter, hcomposite]
  obtain ⟨sites, job, before, result, after, course⟩ := part
  obtain rfl : job = .value name args := hjob
  cases course with
  | simple raw args target result hissue hsimple drawn =>
    cases h.not_simple.symm.trans hsimple
  | barred raw args target obstacle hissue hsimple hbarred =>
    cases (henter _).symm.trans hbarred
    rfl
  | tooDeep raw args target owner hissue hsimple hentered hdepth =>
    cases (henter _).symm.trans hentered
  | composite raw args target owner result hissue hsimple hentered hdepth inside =>
    cases (henter _).symm.trans hentered

/-- A variable is declared where a part brings a composite into being, with its constructor, or with
a literal that was drawn of a simple name. -/
def Declares (part : Part plan) (event : Event) : Prop :=
  (∃ raw site, part.job = .value raw site.args ∧ part.course.site? = some site ∧
      event = Plan.declaration raw site.args site.target) ∨
    ∃ raw args target text, part.job = .value raw args ∧ plan.isSimple raw = true ∧
      plan.Draws raw text ∧ event = .declare (Name.simple raw) target text

theorem declares_of_own {type target value : String}
    (hown : .declare type target value ∈ part.course.own) :
    part.Declares (.declare type target value) := by
  obtain ⟨sites, job, before, result, after, course⟩ := part
  cases course with
  | simple raw args name result hissue hsimple drawn =>
    cases result with
    | error failure => cases hown
    | ok text =>
      have heq := List.mem_singleton.1 hown
      exact .inr ⟨raw, args, name, text, rfl, hsimple, drawn.draws rfl, heq⟩
  | composite raw args name owner result hissue hsimple henter hdepth inside =>
    have heq := List.mem_singleton.1 hown
    exact .inl ⟨raw, ⟨name, owner, args⟩, rfl, rfl, heq⟩
  | plain site property writer name result =>
    cases result <;> simp [Course.own, followUp] at hown
  | nested site property writer shape raw args result =>
    cases result <;> simp [Course.own, followUp] at hown
  | collection site property writer kind element name result =>
    cases kind <;> cases result <;> simp [Course.own, followUp, Plan.collectionEvent] at hown
  | _ => cases hown

end Part

namespace Making

variable {catalog : Catalog} {registry : Registry} {settings : Settings} {supply : Supply}
  {root : String} (making : Making catalog registry settings supply root)
  {part : Part making.plan}

theorem drawable (hpart : making.whole.Within part) : part.job.Drawable making.plan := by
  cases hpart with
  | self => trivial
  | inner _ hchild => exact Course.drawable_inner _ hchild

theorem exists_supports {site : Site} (hpart : making.whole.Within part)
    (hsite : part.course.site? = some site) :
    .composite site.owner ∈ catalog.definitions ∧
      ∃ raw, part.job = .value raw site.args ∧ making.plan.Supports raw site.owner ∧
        Plan.declaration raw site.args site.target ∈
          (catalog.fixture registry settings supply root).events := by
  obtain ⟨raw, ledger, inside, -, hjob, henter, hevents, -⟩ := part.course.exists_inside hsite
  have hcomposite := Plan.composite_of_enter henter
  refine ⟨Plan.mem_of_composite hcomposite, raw, hjob, Plan.supports_of_composite hcomposite, ?_⟩
  rw [← making.events_whole]
  apply hpart.events_subset
  rw [hevents]
  exact List.mem_cons_self ..

theorem unsupportedType_iff {name : String} :
    (∃ trail, (catalog.fixture registry settings supply root).result =
        .error ⟨.unsupportedType name, trail⟩) ↔
      ∃ part args, making.whole.Within part ∧ part.job = .value name args ∧
        making.plan.Unsupported name := by
  constructor
  · rintro ⟨trail, hresult⟩
    obtain ⟨part, hpart, hobstacle⟩ :=
      making.course.exists_origin (making.result_whole.trans hresult)
    obtain ⟨args, hjob, hunsupported⟩ :=
      part.unsupported_of_obstacle (making.drawable hpart) hobstacle
    exact ⟨part, args, hpart, hjob, hunsupported⟩
  · rintro ⟨part, args, hpart, hjob, hunsupported⟩
    obtain ⟨frames, hwhole, -⟩ := hpart.failure_eq (part.result_of_unsupported hjob hunsupported)
    exact ⟨_, making.result_whole.symm.trans hwhole⟩

end Making

/-- All variables of a fixture, whether it succeeds or not, are declared with literals of simple
names, or with constructors of composites that their names stand for and that are in the scope in
force. A fixture fails for a name that is not supported exactly if it comes to a value of a name
that is neither simple nor ambiguous and for which there is no composite in scope. -/
theorem fixture_supported (catalog : Catalog) (registry : Registry) (settings : Settings)
    (supply : Supply) (root : String) :
    let outcome := catalog.fixture registry settings supply root
    (outcome.events = [] ∨ Nonempty (Making catalog registry settings supply root)) ∧
      (∀ making : Making catalog registry settings supply root,
        effectiveScope catalog settings root = .ok making.plan.scope ∧
        (∀ part site, making.whole.Within part → part.course.site? = some site →
          .composite site.owner ∈ catalog.definitions ∧
            ∃ raw, part.job = .value raw site.args ∧ making.plan.Supports raw site.owner ∧
              Plan.declaration raw site.args site.target ∈ outcome.events) ∧
        ∀ type target value, .declare type target value ∈ outcome.events →
          ∃ part, making.whole.Within part ∧ part.Declares (.declare type target value)) ∧
      ∀ name, (∃ trail, outcome.result = .error ⟨.unsupportedType name, trail⟩) ↔
        ∃ (making : Making catalog registry settings supply root) (part : Part making.plan)
          (args : List Ty), making.whole.Within part ∧ part.job = .value name args ∧
            making.plan.Unsupported name := by
  intro outcome
  refine ⟨events_nil_or_making catalog registry settings supply root, fun making => ?_,
    fun name => ?_⟩
  · refine ⟨making.scope_eq, fun part site hpart hsite => making.exists_supports hpart hsite, ?_⟩
    intro type target value hevent
    obtain ⟨part, hpart, hown⟩ := making.course.exists_own (making.events_eq ▸ hevent)
    exact ⟨part, hpart, part.declares_of_own hown⟩
  · constructor
    · rintro ⟨trail, hresult⟩
      cases hscope : effectiveScope catalog settings root with
      | error obstacle =>
        obtain ⟨candidates, rfl⟩ := ambiguousName_of_effectiveScope hscope
        have hnone := fixture_of_no_scope catalog registry settings supply root hscope
        cases hresult.symm.trans (congrArg Outcome.result hnone)
      | ok scope =>
        obtain ⟨making, -⟩ := exists_making catalog registry settings supply root hscope
        exact ⟨making, making.unsupportedType_iff.1 ⟨trail, hresult⟩⟩
    · rintro ⟨making, hmet⟩
      exact making.unsupportedType_iff.2 hmet

/-- A house with rooms inside it, and a vault in a module that only begins with the same letters. -/
def vaultedHouse : Catalog where
  definitions := [
    .composite ⟨"House", "pl.home", [], [
      ⟨"rooms", .applied "List" [.named "Room"], none, some "setRooms"⟩,
      ⟨"vault", .named "pl.homes.Vault", none, some "setVault"⟩]⟩,
    .composite ⟨"Room", "pl.home.inside", [], []⟩,
    .composite ⟨"Vault", "pl.homes", [], []⟩]

theorem fixture_supported_vaultedHouse :
    (vaultedHouse.fixture .builtin {} (.seeded 0) "pl.home.House").result =
        .error ⟨.unsupportedType "pl.homes.Vault", [⟨"House", "vault"⟩]⟩ ∧
      (vaultedHouse.fixture .builtin {} (.seeded 0) "pl.home.House").events[3]? =
        some (.declare "Room" "room" "new Room()") ∧
      ∃ (making : Making vaultedHouse .builtin {} (.seeded 0) "pl.home.House")
        (part : Part making.plan) (args : List Ty), making.whole.Within part ∧
          part.job = .value "pl.homes.Vault" args ∧ making.plan.Unsupported "pl.homes.Vault" := by
  have hresult : (vaultedHouse.fixture .builtin {} (.seeded 0) "pl.home.House").result =
      .error ⟨.unsupportedType "pl.homes.Vault", [⟨"House", "vault"⟩]⟩ := by decide +kernel
  obtain ⟨-, -, hunsupported⟩ :=
    fixture_supported vaultedHouse .builtin {} (.seeded 0) "pl.home.House"
  exact ⟨hresult, by decide +kernel, (hunsupported "pl.homes.Vault").1 ⟨_, hresult⟩⟩

end Fixture

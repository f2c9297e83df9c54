import Fixture.Proofs.Construction.Population
import Fixture.Proofs.Obstacle
import Fixture.Proofs.Ty.Display

/-!
# Names inside a module

Where the type of a property is a name without dots, it means the definition that the module of its
composite has under this name. No registered kind of that name comes before it, and no definition of
another module. Only a kind registered under the qualified name itself does, and the names of
collections, which mean collections in every module.
-/

namespace Fixture

/-- A property that is to get a value is declared with the plain name of a definition in the module
of its composite, and no kind is registered under the qualified name. -/
structure Plan.Means (plan : Plan) (owner : Composite) (property : Property)
    (writer name : String) (definition : Definition) : Prop where
  defined : definition ∈ plan.catalog.definitions
  qualified : definition.qualifiedName = Name.qualify owner.module name
  not_dotted : Name.isDotted name = false
  unregistered : plan.registry.registered? (Name.qualify owner.module name) = none
  declared : property.ty = .named name
  writable : property.writer = some writer
  due : plan.settings.ignores property.name = false

namespace Plan.Means

variable {plan : Plan} {owner : Composite} {property : Property} {writer name : String}
  {definition : Definition} (hcatalog : plan.catalog.Lawful)

include hcatalog

theorem lookup (h : plan.Means owner property writer name definition) :
    plan.catalog.lookup (Name.qualify owner.module name) = .ok (some definition) := by
  have hfind := hcatalog.find?_qualifiedName h.defined
  rw [h.qualified] at hfind
  rw [Catalog.lookup, hfind]

/-- The simple name is not tried as a kind, for the catalogue knows the qualified one. -/
theorem strategy? (h : plan.Means owner property writer name definition) :
    plan.registry.strategy? plan.catalog (Name.qualify owner.module name) = none := by
  rw [Registry.strategy?, h.unregistered, h.lookup hcatalog]

theorem isSimple_enumeration {enumeration : Enumeration}
    (h : plan.Means owner property writer name (.enumeration enumeration)) :
    plan.isSimple (Name.qualify owner.module name) = true := by
  rw [isSimple, Registry.isSimple, h.strategy? hcatalog, Catalog.isEnumeration, h.lookup hcatalog]
  rfl

theorem isSimple_composite {composite : Composite}
    (h : plan.Means owner property writer name (.composite composite)) :
    plan.isSimple (Name.qualify owner.module name) = false := by
  rw [isSimple, Registry.isSimple, h.strategy? hcatalog, Catalog.isEnumeration, h.lookup hcatalog]
  rfl

theorem memberOf {enumeration : Enumeration}
    (h : plan.Means owner property writer name (.enumeration enumeration)) :
    plan.memberOf (Name.qualify owner.module name) = Registry.memberLiteral enumeration := by
  rw [Plan.memberOf, h.lookup hcatalog]

theorem composite {composite : Composite}
    (h : plan.Means owner property writer name (.composite composite)) :
    plan.composite (Name.qualify owner.module name) =
      if inScope plan.scope composite.module then .ok composite
      else .error (.unsupportedType (Name.qualify owner.module name)) := by
  rw [Plan.composite, h.lookup hcatalog]

omit hcatalog in
theorem propertyType (h : plan.Means owner property writer name definition) (args : List Ty) :
    plan.propertyType owner args property = .ok (.named (Name.qualify owner.module name)) := by
  have hcontains : plan.catalog.contains (Name.qualify owner.module name) = true :=
    Catalog.contains_iff.2 (h.qualified ▸ List.mem_map_of_mem h.defined)
  have hqualify : plan.catalog.qualifyName owner.module name = Name.qualify owner.module name := by
    rw [Catalog.qualifyName, h.not_dotted, hcontains]
    rfl
  rw [Plan.propertyType, h.declared, Catalog.qualifyIn, Ty.mapNames, hqualify]
  rfl

omit hcatalog in
theorem writerAndShape (h : plan.Means owner property writer name definition)
    (hname : CollectionKind.ofName? name = none) (args : List Ty) {simple : Bool}
    (hsimple : plan.isSimple (Name.qualify owner.module name) = simple) :
    plan.writerAndShape owner args property =
      .ok (writer,
        if simple then .simple (Name.qualify owner.module name)
        else .composite (Name.qualify owner.module name) []) := by
  have hcollection : CollectionKind.ofName? (Name.qualify owner.module name) = none := by
    rw [CollectionKind.ofName?, Name.simple_qualify]
    exact hname
  have hsimple : plan.registry.isSimple plan.catalog (Name.qualify owner.module name) = simple :=
    hsimple
  rw [Plan.writerAndShape, h.writable]
  simp only [h.propertyType args, Shape.ofTy, hcollection, hsimple, Option.isSome_none]
  cases simple <;> rfl

end Plan.Means

/-! ### What becomes of such a property -/

namespace Part

variable {plan : Plan} (part : Part plan)

/-- A property that means an enumeration passes on the literal of its first member, and fails if
there is none; nothing is drawn or declared for it. -/
def Chooses (site : Site) (property : Property) (writer : String) (enumeration : Enumeration) :
    Prop :=
  part.after = part.before ∧
    match enumeration.members with
    | first :: _ =>
      part.result = .ok site.target ∧
        part.course.events = [.call site.target writer (enumeration.name ++ "." ++ first)]
    | [] =>
      part.result = .error ⟨.emptyEnumeration enumeration.qualifiedName,
          [⟨site.owner.name, property.name⟩]⟩ ∧
        part.course.events = []

/-- A variable is made for a composite without arguments, and the composite is populated; or it may
not be entered, and nothing is emitted. -/
inductive Constructs (raw name : String) (owner : Composite) (outcome : Outcome) : Prop
  | outOfScope (hscope : Plan.inScope plan.scope owner.module = false)
      (hresult : part.result = .error { obstacle := .unsupportedType raw })
      (hevents : part.course.events = [])
  | cycle (hopen : Plan.key owner [] ∈ part.sites.map Site.key)
      (hresult : part.result = .error { obstacle := .cycle (Plan.key owner []) })
      (hevents : part.course.events = [])
  | tooDeep (hdepth : plan.settings.maxDepth ≤ part.sites.length)
      (hresult : part.result = .error { obstacle := .tooDeep plan.settings.maxDepth })
      (hevents : part.course.events = [])
  | begun {target : String} {rest : List Event}
      (hsite : part.course.site? = some ⟨target, owner, []⟩)
      (hevents : part.course.events = .declare name target s!"new {name}()" :: rest)
      (hpopulated : part.Populated ⟨target, owner, []⟩ outcome)
      (hresult : part.result = .ok target ∨ ∃ failure, part.result = .error failure ∧
        ∃ own ∈ owner.properties, failure.trail.head? = some ⟨owner.name, own.name⟩)

/-- A property is generated from a definition, which goes by a simple name and a qualified one, and
from nothing else. -/
def GeneratedFrom (site : Site) (property : Property) (writer raw name : String)
    (outcome : Outcome) : Definition → Prop
  | .enumeration enumeration => part.Chooses site property writer enumeration
  | .composite owner =>
    ∃ child, part.course.inner = [child] ∧ child.job = .value raw [] ∧
      child.sites = part.sites ∧ child.before = part.before ∧ child.after = part.after ∧
      child.Constructs raw name owner outcome ∧
      part.result = site.closing property child.result ∧
      part.course.events = child.course.events ++
        followUp child.result fun value => [.blank, .call site.target writer value, .blank]

end Part

namespace Course

variable {plan : Plan} {sites : List Site} {job : Job} {before after : Stock}
  {result : Except Failure String} {site : Site} {property : Property} {writer name : String}
  (hcatalog : plan.catalog.Lawful) (hname : CollectionKind.ofName? name = none)

include hcatalog hname

theorem chooses {enumeration : Enumeration}
    (course : Course plan sites (.property site property) before result after)
    (h : plan.Means site.owner property writer name (.enumeration enumeration)) :
    course.part.Chooses site property writer enumeration := by
  have hshape' := h.writerAndShape hname site.args (h.isSimple_enumeration hcatalog)
  cases course with
  | ignored _ _ hignored => cases hignored.symm.trans h.due
  | unfit _ _ obstacle hdue hshape => cases hshape.symm.trans hshape'
  | plain _ _ called raw result hdue hshape hparam drawn =>
    cases hshape.symm.trans hshape'
    cases drawn with
    | literal _ drawn hdraw =>
      rw [Plan.draw_of_not_registered (h.strategy? hcatalog), h.memberOf hcatalog] at hdraw
      rw [Registry.memberLiteral] at hdraw
      cases hmembers : enumeration.members with
      | nil =>
        simp only [hmembers] at hdraw
        cases hdraw
        refine ⟨rfl, ?_⟩
        rw [hmembers]
        exact ⟨rfl, rfl⟩
      | cons first rest =>
        simp only [hmembers] at hdraw
        cases hdraw
        refine ⟨rfl, ?_⟩
        rw [hmembers]
        exact ⟨rfl, rfl⟩
  | nested _ _ called shape raw args result hdue hshape hthrough value =>
    cases hshape.symm.trans hshape'
    cases hthrough with
    | simple _ hparam => simp [Plan.declaresParam, h.declared] at hparam
  | collection _ _ called kind element collection result hdue hshape hissue inside =>
    cases hshape.symm.trans hshape'

omit hname in
theorem constructs {owner : Composite} {composite : Composite} {outcome : Outcome}
    (course : Course plan sites (.value (Name.qualify owner.module name) []) before result after)
    (h : plan.Means owner property writer name (.composite composite))
    (hpopulated : ∀ site, course.site? = some site → course.part.Populated site outcome) :
    course.part.Constructs (Name.qualify owner.module name) name composite outcome := by
  have hcomposite := h.composite hcatalog
  cases course with
  | simple _ _ target result hissue hsimple drawn =>
    cases hsimple.symm.trans (h.isSimple_composite hcatalog)
  | barred _ _ target obstacle hissue hsimple henter =>
    rw [Plan.enter, hcomposite] at henter
    cases hscope : Plan.inScope plan.scope composite.module with
    | false =>
      simp only [hscope, Bool.false_eq_true, if_false] at henter
      cases henter
      exact .outOfScope hscope rfl rfl
    | true =>
      simp only [hscope, if_true] at henter
      rcases Plan.mayEnter_error (map_eq_error henter) with ⟨hargs, -⟩ | ⟨hopen, rfl⟩
      · exact absurd rfl hargs
      · exact .cycle hopen rfl rfl
  | tooDeep _ _ target owner hissue hsimple henter hdepth => exact .tooDeep hdepth rfl rfl
  | composite _ _ target entered result hissue hsimple henter hdepth inside =>
    obtain rfl : composite = entered := by
      have hentered := hcomposite.symm.trans (Plan.composite_of_enter henter)
      split at hentered
      · exact Except.ok.inj hentered
      · cases hentered
    refine .begun rfl (congrArg (· :: inside.events) ?_) (hpopulated _ rfl) ?_
    · rw [Plan.declaration, Name.simple_qualify, Name.simple_of_not_dotted h.not_dotted]
      simp [Ty.displayArgs]
    · cases result with
      | ok value => exact .inl (congrArg Except.ok inside.value_of_properties)
      | error failure =>
        have hnodup := (Catalog.nodup_of_flawless (hcatalog.flawless _ h.defined)).2
        let course := Course.composite _ _ target composite _ hissue hsimple henter hdepth inside
        obtain ⟨own, hown, hframe, -⟩ := course.acting_of_site_error rfl rfl hnodup
        refine .inr ⟨failure, rfl, own, ?_, hframe⟩
        exact (Plan.perm_inOrder composite).mem_iff.1 (List.mem_of_mem_filter hown)

theorem generatedFrom {definition : Definition} {outcome : Outcome}
    (course : Course plan sites (.property site property) before result after)
    (h : plan.Means site.owner property writer name definition)
    (hpopulated : ∀ part site, course.part.Within part → part.course.site? = some site →
      part.Populated site outcome) :
    course.part.GeneratedFrom site property writer (Name.qualify site.owner.module name) name
      outcome definition := by
  cases definition with
  | enumeration enumeration => exact course.chooses hcatalog hname h
  | composite owner =>
    have hshape' := h.writerAndShape hname site.args (h.isSimple_composite hcatalog)
    cases course with
    | ignored _ _ hignored => cases hignored.symm.trans h.due
    | unfit _ _ obstacle hdue hshape => cases hshape.symm.trans hshape'
    | plain _ _ called raw result hdue hshape hparam drawn => cases hshape.symm.trans hshape'
    | nested _ _ called shape raw args result hdue hshape hthrough value =>
      cases hshape.symm.trans hshape'
      cases hthrough with
      | composite _ _ =>
        refine ⟨value.part, rfl, rfl, rfl, rfl, rfl, ?_, rfl, rfl⟩
        refine value.constructs hcatalog h fun site hsite => ?_
        exact hpopulated value.part site (within_inner _ (List.mem_singleton_self _)) hsite
    | collection _ _ called kind element collection result hdue hshape hissue inside =>
      cases hshape.symm.trans hshape'

omit hcatalog hname

theorem frame_of_closing {failure : Failure} (h : site.closing property result = .error failure) :
    failure.trail.head? = some ⟨site.owner.name, property.name⟩ := by
  cases result with
  | ok value => cases h
  | error inside =>
    cases h
    rfl

theorem frame_of_property {failure : Failure}
    (course : Course plan sites (.property site property) before result after)
    (hresult : result = .error failure) :
    failure.trail.head? = some ⟨site.owner.name, property.name⟩ := by
  cases course with
  | ignored => cases hresult
  | unfit | plain | nested | collection => exact frame_of_closing hresult

theorem exists_part_of_property {outer : List Site} {rest : List Property}
    (course : Course plan (site :: outer) (.properties site rest) before result after)
    (hrest : rest.Pairwise (·.name < ·.name)) (hproperty : property ∈ rest) :
    (∃ part, course.part.Within part ∧ part.job = .property site property) ∨
      ∃ earlier ∈ rest, earlier.name < property.name ∧ ∃ failure, result = .error failure ∧
        failure.trail.head? = some ⟨site.owner.name, earlier.name⟩ := by
  induction rest generalizing before with
  | nil => cases hproperty
  | cons first rest ih =>
    obtain ⟨hfirst, hrest⟩ := List.pairwise_cons.1 hrest
    cases course with
    | next _ _ _ result head others =>
      rcases List.mem_cons.1 hproperty with rfl | hproperty
      · exact .inl ⟨head.part, within_inner _ (by simp [inner]), rfl⟩
      · rcases ih others hrest hproperty with ⟨part, hpart, hjob⟩ | ⟨earlier, hearlier, hfailed⟩
        · have hothers : (next site first rest result head others).part.Within others.part :=
            within_inner _ (by simp [inner])
          exact .inl ⟨part, .trans hothers hpart, hjob⟩
        · exact .inr ⟨earlier, List.mem_cons_of_mem _ hearlier, hfailed⟩
    | stop _ _ _ failure head =>
      rcases List.mem_cons.1 hproperty with rfl | hproperty
      · exact .inl ⟨head.part, within_inner _ (by simp [inner]), rfl⟩
      · refine .inr ⟨first, List.mem_cons_self .., hfirst _ hproperty, failure, rfl, ?_⟩
        exact head.frame_of_property rfl

end Course

variable {catalog : Catalog} {registry : Registry} {settings : Settings} {supply : Supply}
  {root : String}

/-- A property that is declared with the plain name of a definition in the module of its composite
is generated from this definition, whatever else goes by the name, unless an earlier property of the
composite has failed. Its failure ends the whole fixture. The names of collections are set apart. -/
theorem same_module_first (hcatalog : catalog.Reachable)
    (making : Making catalog registry settings supply root) {maker : Part making.plan} {site : Site}
    {property : Property} {writer name : String} {definition : Definition}
    (hmaker : making.whole.Within maker) (hsite : maker.course.site? = some site)
    (hproperty : property ∈ site.owner.properties)
    (hmeans : making.plan.Means site.owner property writer name definition)
    (hname : CollectionKind.ofName? name = none) :
    let outcome := catalog.fixture registry settings supply root
    ((∃ part, maker.Within part ∧ part.job = .property site property) ∨
        ∃ earlier ∈ site.owner.properties, earlier.name < property.name ∧
          ∃ failure, maker.result = .error failure ∧
            failure.trail.head? = some ⟨site.owner.name, earlier.name⟩) ∧
      ∀ part, maker.Within part → part.job = .property site property →
        part.GeneratedFrom site property writer (Name.qualify site.owner.module name) name outcome
            definition ∧
          ∀ failure, part.result = .error failure →
            ∃ frames, outcome.result = .error ⟨failure.obstacle, frames ++ failure.trail⟩ := by
  intro outcome
  have hlawful : making.plan.catalog.Lawful := hcatalog.lawful
  constructor
  · obtain ⟨raw, ledger, inside, hinside, -⟩ := maker.course.exists_inside hsite
    have hmem : ∀ {other}, other ∈ Plan.inOrder site.owner ↔ other ∈ site.owner.properties :=
      (Plan.perm_inOrder site.owner).mem_iff
    have hascending := Plan.ascending_inOrder (making.nodup_of_site hlawful hsite)
    rcases inside.exists_part_of_property hascending (hmem.2 hproperty) with
      ⟨part, hpart, hjob⟩ | ⟨earlier, hearlier, hless, hfailed⟩
    · exact .inl ⟨part, .trans (.inner .self hinside) hpart, hjob⟩
    · exact .inr ⟨earlier, hmem.1 hearlier, hless, hfailed⟩
  · intro part hpart hjob
    have hwithin := hmaker.trans hpart
    constructor
    · obtain ⟨sites, job, before, result, after, course⟩ := part
      obtain rfl : job = .property site property := hjob
      refine course.generatedFrom hlawful hname hmeans fun child site hchild hsite => ?_
      exact making.populated hlawful (hwithin.trans hchild) hsite
    · intro failure hresult
      obtain ⟨frames, hwhole, -⟩ := hwithin.failure_eq hresult
      exact ⟨frames, making.result_whole.symm.trans hwhole⟩

theorem Course.exists_site {plan : Plan} {sites : List Site} {before after : Stock}
    {result : Except Failure String} {raw : String} {args : List Ty} {owner : Composite}
    (course : Course plan sites (.value raw args) before result after)
    (hsimple : plan.isSimple raw = false)
    (henter : plan.enter raw args (sites.map Site.key) = .ok owner)
    (hdepth : sites.length < plan.settings.maxDepth) :
    ∃ target, course.site? = some ⟨target, owner, args⟩ := by
  cases course with
  | simple _ _ _ _ _ hother => cases hsimple.symm.trans hother
  | barred _ _ _ _ _ _ hother => cases henter.symm.trans hother
  | tooDeep _ _ _ _ _ _ _ hother => exact absurd hdepth (Nat.not_lt.2 hother)
  | composite _ _ target _ _ _ _ hother =>
    cases henter.symm.trans hother
    exact ⟨target, rfl⟩

/-! ### A root with one property -/

/-- A property that is declared with a plain name. -/
def item (name : String) : Property := ⟨"item", .named name, none, some "setItem"⟩

def holder (name : String) : Composite := ⟨"Root", "pl", [], [item name]⟩

/-- A date in the module of the root, beside the kind of that name and a date in another module. -/
def dates : Catalog where
  definitions := [.composite (holder "Date"), .composite ⟨"Date", "pl", [], []⟩,
    .composite ⟨"Date", "pl.old", [], []⟩]

theorem dates_reachable : dates.Reachable :=
  .ofDefinitions (rfl : Catalog.ofDefinitions dates.definitions = .ok dates)

theorem same_module_first_dates :
    ∃ (making : Making dates .builtin {} (.seeded 0) "pl.Root") (target : String)
      (part : Part making.plan), making.whole.Within part ∧
      part.job = .property ⟨target, holder "Date", []⟩ (item "Date") ∧
      part.GeneratedFrom ⟨target, holder "Date", []⟩ (item "Date") "setItem" "pl.Date" "Date"
        (dates.fixture .builtin {} (.seeded 0) "pl.Root") (.composite ⟨"Date", "pl", [], []⟩) := by
  have hscope : effectiveScope dates {} "pl.Root" = .ok "pl" := rfl
  obtain ⟨making, hmaking⟩ := exists_making dates .builtin {} (.seeded 0) "pl.Root" hscope
  have hplan : making.plan = ⟨dates, .builtin, {}, "pl"⟩ := by rw [Making.plan, hmaking]
  have hsimple : making.plan.isSimple "pl.Root" = false := by rw [hplan]; rfl
  have henter : making.plan.enter "pl.Root" [] [] = .ok (holder "Date") := by rw [hplan]; rfl
  have hdepth : 0 < making.plan.settings.maxDepth := by rw [hplan]; decide
  have hmeans : making.plan.Means (holder "Date") (item "Date") "setItem" "Date"
      (.composite ⟨"Date", "pl", [], []⟩) := by
    rw [hplan]
    exact ⟨by simp [dates], rfl, by decide, rfl, rfl, rfl, by decide⟩
  obtain ⟨target, hsite⟩ := Course.exists_site making.whole.course hsimple henter hdepth
  obtain ⟨hreached, hall⟩ := same_module_first dates_reachable making .self hsite
    (List.mem_singleton_self _) hmeans rfl
  rcases hreached with ⟨part, hpart, hjob⟩ | ⟨earlier, hearlier, hless, -⟩
  · exact ⟨making, target, part, hpart, hjob, (hall part hpart hjob).1⟩
  · obtain rfl := List.mem_singleton.1 hearlier
    exact absurd hless (String.lt_irrefl _)

/-- A composite that goes by the name of a collection. -/
def lists : Catalog where
  definitions := [.composite (holder "List"), .composite ⟨"List", "pl", [], []⟩]

/-- An enumeration without members. -/
def moods : Catalog where
  definitions := [.composite (holder "Mood"), .enumeration ⟨"Mood", "pl", []⟩]

/-- A definition of the module is passed over if it goes by the name of a collection, and nothing
can be passed on of an enumeration without members. -/
theorem same_module_passed_over :
    (lists.Reachable ∧
      Plan.Means ⟨lists, .builtin, {}, "pl"⟩ (holder "List") (item "List") "setItem" "List"
        (.composite ⟨"List", "pl", [], []⟩) ∧
      (lists.fixture .builtin {} (.seeded 0) "pl.Root").result =
        .error ⟨.malformedGeneric (.missingElement "pl.List"), [⟨"Root", "item"⟩]⟩ ∧
      (lists.fixture .builtin {} (.seeded 0) "pl.Root").events =
        [.declare "Root" "root" "new Root()"]) ∧
    moods.Reachable ∧
      Plan.Means ⟨moods, .builtin, {}, "pl"⟩ (holder "Mood") (item "Mood") "setItem" "Mood"
        (.enumeration ⟨"Mood", "pl", []⟩) ∧
      (moods.fixture .builtin {} (.seeded 0) "pl.Root").result =
        .error ⟨.emptyEnumeration "pl.Mood", [⟨"Root", "item"⟩]⟩ ∧
      (moods.fixture .builtin {} (.seeded 0) "pl.Root").events =
        [.declare "Root" "root" "new Root()"] := by
  refine ⟨⟨?_, ?_, ?_, ?_⟩, ?_, ?_, ?_, ?_⟩
  · exact .ofDefinitions (rfl : Catalog.ofDefinitions lists.definitions = .ok lists)
  · exact ⟨by simp [lists], rfl, by decide, rfl, rfl, rfl, by decide⟩
  · decide +kernel
  · decide +kernel
  · exact .ofDefinitions (rfl : Catalog.ofDefinitions moods.definitions = .ok moods)
  · exact ⟨by simp [moods], rfl, by decide, rfl, rfl, rfl, by decide⟩
  · decide +kernel
  · decide +kernel

end Fixture

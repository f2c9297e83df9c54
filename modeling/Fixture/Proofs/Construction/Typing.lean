import Fixture.Proofs.Catalog.Loaded
import Fixture.Proofs.Construction.Population

/-!
# What a setter gets fits the type of its property

The types of properties are read from the catalogue, and parameters in them stand for the arguments
that the composite was entered with, which in turn come from the types of properties further out.
All of them stay proper on the way. So what a variable is declared as, and what it is made of, can
be told from the type of the property that it is for.
-/

namespace Fixture

/-- A literal of a simple kind, from whatever supply. -/
def Plan.Draws (plan : Plan) (name text : String) : Prop :=
  ∃ before after, plan.draw name before = (.ok text, after)

/-- What is passed to the writer of a property fits its type. For a collection it is a collection of
that kind with one element, which is a literal or a composite without arguments. For a simple type
it is a literal, in a variable of its own unless the declared type is a plain name. For a composite
it is a variable of exactly that type. -/
def Plan.Fits (plan : Plan) (events : List Event) (property : Property) (ty : Ty)
    (argument : String) : Prop :=
  match ty.collection? with
  | some (kind, element) =>
    declarationsOf argument events =
        [Plan.collectionEvent kind (Name.simple element.rawName) argument] ∧
      ∃ value, actingOn argument events = [.append argument value] ∧
        if plan.isSimple element.rawName then plan.Draws element.rawName value
        else declarationsOf value events = [Plan.declaration element.rawName [] value]
  | none =>
    if plan.isSimple ty.rawName then
      match property.ty with
      | .named _ => plan.Draws ty.rawName argument
      | _ => ∃ text, plan.Draws ty.rawName text ∧
          declarationsOf argument events = [.declare (Name.simple ty.rawName) argument text]
    else
      declarationsOf argument events =
        [.declare ty.display argument
          (if ty matches .named _ then s!"new {Name.simple ty.rawName}()"
            else s!"new {Name.simple ty.rawName}<>()")]

namespace Plan

variable {plan : Plan} {owner : Composite} {args inner : List Ty} {property : Property} {ty : Ty}
  {events : List Event}

theorem declaration_named (raw target : String) :
    declaration raw [] target =
      .declare (Ty.named raw).display target s!"new {Name.simple raw}()" := by
  simp [declaration, Ty.displayArgs, Ty.display]

theorem declaration_applied {raw target : String} (hargs : inner ≠ []) :
    declaration raw inner target =
      .declare (Ty.applied raw inner).display target s!"new {Name.simple raw}<>()" := by
  simp [declaration, Ty.displayArgs, Ty.display, Ty.displayAll_eq_map, hargs, String.append_assoc]

theorem fits_literal {name text : String}
    (hty : plan.propertyType owner args property = .ok ty)
    (hofTy : Shape.ofTy plan.registry plan.catalog ty = .ok (.simple name))
    (hparam : declaresParam property = false) (hdraws : plan.Draws name text) :
    plan.Fits events property ty text := by
  rcases Shape.ofTy_ok hofTy with ⟨_, _, -, heq⟩ | ⟨hcollection, hcases⟩
  · cases heq
  · rcases hcases with ⟨name, rfl, hsimple, heq⟩ | ⟨_, -, -, heq⟩ | ⟨_, _, -, heq⟩
    · cases heq
      cases hproperty : property.ty with
      | named declared =>
        simpa [Fits, hcollection, Ty.rawName, isSimple, hsimple, hproperty] using hdraws
      | param declared => simp [declaresParam, hproperty] at hparam
      | applied raw inner =>
        obtain ⟨_, _, heq⟩ := propertyType_applied hproperty hty
        cases heq
    · cases heq
    · cases heq

theorem fits_of_simple {name text : String} (hcollection : ty.collection? = none)
    (hsimple : plan.isSimple ty.rawName = true)
    (hplain : ∀ declared, property.ty ≠ .named declared) (hdraws : plan.Draws ty.rawName text)
    (hdeclared : declarationsOf name events = [.declare (Name.simple ty.rawName) name text]) :
    plan.Fits events property ty name := by
  cases hproperty : property.ty with
  | named declared => exact absurd hproperty (hplain declared)
  | param | applied => simpa [Fits, hcollection, hsimple, hproperty] using ⟨text, hdraws, hdeclared⟩

theorem fits_variable {shape : Shape} {raw name : String}
    (hty : plan.propertyType owner args property = .ok ty) (hproper : ty.Follows .proper False)
    (hofTy : Shape.ofTy plan.registry plan.catalog ty = .ok shape)
    (hthrough : shape.ThroughVariable property raw inner)
    (hdeclared : (plan.isSimple raw = true ∧ ∃ text, plan.Draws raw text ∧
        declarationsOf name events = [.declare (Name.simple raw) name text]) ∨
      plan.isSimple raw = false ∧ declarationsOf name events = [declaration raw inner name]) :
    plan.Fits events property ty name := by
  rcases Shape.ofTy_ok hofTy with ⟨_, _, -, rfl⟩ | ⟨hcollection, hcases⟩
  · cases hthrough
  · rcases hcases with ⟨_, rfl, hsimple, rfl⟩ | ⟨_, rfl, hsimple, rfl⟩ | ⟨_, _, rfl, rfl⟩
    · cases hthrough with
      | simple _ hparam =>
        obtain ⟨-, text, hdraws, hdeclared⟩ := hdeclared.resolve_right
          fun ⟨hother, _⟩ => Bool.false_ne_true (hother.symm.trans hsimple)
        refine fits_of_simple hcollection hsimple ?_ hdraws hdeclared
        intro declared hproperty
        simp [declaresParam, hproperty] at hparam
    · cases hthrough
      obtain ⟨-, hdeclared⟩ := hdeclared.resolve_left
        fun ⟨hother, _⟩ => Bool.false_ne_true (hsimple.symm.trans hother)
      rw [declaration_named] at hdeclared
      have hsimple : plan.isSimple (Ty.named raw).rawName = false := hsimple
      simp only [Fits, hcollection, hsimple, Bool.false_eq_true, if_false]
      exact hdeclared
    · cases hthrough
      rcases hdeclared with ⟨hsimple, text, hdraws, hdeclared⟩ | ⟨hsimple, hdeclared⟩
      · refine fits_of_simple hcollection hsimple ?_ hdraws hdeclared
        intro declared hproperty
        obtain ⟨_, heq⟩ := propertyType_named hproperty hty
        cases heq
      · have hargs : inner.length ≠ 0 := hproper.args_of_applied.1
        rw [declaration_applied (List.ne_nil_of_length_pos (Nat.pos_of_ne_zero hargs))] at hdeclared
        have hsimple : plan.isSimple (Ty.applied raw inner).rawName = false := hsimple
        simp only [Fits, hcollection, hsimple, Bool.false_eq_true, if_false]
        exact hdeclared

theorem fits_collection {kind : CollectionKind} {element : Ty} {name : String} (value : String)
    (hofTy : Shape.ofTy plan.registry plan.catalog ty = .ok (.collection kind element))
    (hdeclared : declarationsOf name events =
      [collectionEvent kind (Name.simple element.rawName) name])
    (hacting : actingOn name events = [.append name value])
    (helement : if plan.isSimple element.rawName then plan.Draws element.rawName value
      else declarationsOf value events = [declaration element.rawName [] value]) :
    plan.Fits events property ty name := by
  rcases Shape.ofTy_ok hofTy with ⟨_, _, hcollection, heq⟩ | ⟨-, hcases⟩
  · cases heq
    simp only [Fits, hcollection]
    exact ⟨hdeclared, value, hacting, helement⟩
  · rcases hcases with ⟨_, -, -, heq⟩ | ⟨_, -, -, heq⟩ | ⟨_, _, -, heq⟩
    all_goals cases heq

end Plan

/-- An event calls the writer of a property on the variable of the site, and passes on what fits. -/
def Plan.SetsFitting (plan : Plan) (events : List Event) (site : Site) (property : Property)
    (event : Event) : Prop :=
  ∃ writer argument ty, property.writer = some writer ∧
    event = .call site.target writer argument ∧
    plan.propertyType site.owner site.args property = .ok ty ∧
    plan.Fits events property ty argument

namespace Course

variable {plan : Plan} {sites outer : List Site} {job : Job} {before after : Stock}
  {result : Except Failure String}

theorem draws {name text : String} (course : Course plan sites (.literal name) before result after)
    (hresult : result = .ok text) : plan.Draws name text := by
  cases course with
  | literal _ result hdraw =>
    cases result with
    | error obstacle => cases hresult
    | ok drawn =>
      cases hresult
      exact ⟨_, _, hdraw⟩

theorem declaration_of_value {raw name : String} {args : List Ty}
    (course : Course plan sites (.value raw args) before result after)
    (hresult : result = .ok name) :
    (plan.isSimple raw = true ∧ ∃ text, plan.Draws raw text ∧
        .declare (Name.simple raw) name text ∈ course.events) ∨
      plan.isSimple raw = false ∧ Plan.declaration raw args name ∈ course.events := by
  cases course with
  | simple raw args target result hissue hsimple drawn =>
    obtain ⟨text, rfl, rfl⟩ := map_eq_ok hresult
    refine .inl ⟨hsimple, text, ?_, ?_⟩
    · exact drawn.draws rfl
    · exact List.mem_singleton_self _
  | barred => cases hresult
  | tooDeep => cases hresult
  | composite raw args target owner result hissue hsimple henter hdepth inside =>
    subst hresult
    obtain rfl := inside.value_of_properties
    exact .inr ⟨hsimple, List.mem_cons_self ..⟩

/-- Events of which those of a course are a part that nothing else acts on. -/
structure Embeds (course : Course plan sites job before result after) (events : List Event) :
    Prop where
  declarations : ∀ event ∈ course.events, ∀ name, event.declared? = some name →
    declarationsOf name events = [event]
  acting : ∀ name ∈ declaredIn course.events, actingOn name events = actingOn name course.events

theorem fits_element {element : Ty} {value : String} {all : List Event}
    (course : Course plan sites (plan.elementJob element) before (.ok value) after)
    (hall : ∀ event ∈ course.events, ∀ name, event.declared? = some name →
      declarationsOf name all = [event]) :
    if plan.isSimple element.rawName then plan.Draws element.rawName value
    else declarationsOf value all = [Plan.declaration element.rawName [] value] := by
  generalize hjob : plan.elementJob element = job at course
  rw [Plan.elementJob] at hjob
  split at hjob
  · next hsimple =>
    subst hjob
    rw [if_pos hsimple]
    exact course.draws rfl
  · next hsimple =>
    subst hjob
    rw [if_neg hsimple]
    rcases course.declaration_of_value rfl with ⟨hraw, -⟩ | ⟨-, hdeclaration⟩
    · exact absurd hraw hsimple
    · exact hall _ hdeclaration value rfl

theorem fits_property {site : Site} {property : Property} {all : List Event}
    (course : Course plan sites (.property site property) before result after)
    (hall : course.Embeds all) (htarget : site.target ∈ before.ledger.issued)
    (hproper : (Job.property site property).Follows .proper) {writer argument : String}
    (hown : .call site.target writer argument ∈ course.own) :
    ∃ ty, plan.propertyType site.owner site.args property = .ok ty ∧
      plan.Fits all property ty argument := by
  cases course with
  | plain site property called name result hdue hshape hparam drawn =>
    cases result with
    | error failure => cases hown
    | ok text =>
      obtain rfl : argument = text := by
        cases List.mem_singleton.1 hown
        rfl
      obtain ⟨-, ty, hty, hofTy⟩ := Plan.writerAndShape_ok hshape
      exact ⟨ty, hty, Plan.fits_literal hty hofTy hparam (drawn.draws rfl)⟩
  | nested site property called shape raw args result hdue hshape hthrough value =>
    cases result with
    | error failure => cases hown
    | ok name =>
      obtain rfl : argument = name := by
        simp only [own, followUp, List.mem_cons, List.not_mem_nil, or_false] at hown
        rcases hown with heq | heq | heq <;> cases heq
        rfl
      obtain ⟨-, ty, hty, hofTy⟩ := Plan.writerAndShape_ok hshape
      have htyProper := Plan.propertyType_follows hproper.2 hproper.1 hty
      refine ⟨ty, hty, Plan.fits_variable hty htyProper hofTy hthrough ?_⟩
      have hdeclarations : ∀ event ∈ value.events, event.declared? = some argument →
          declarationsOf argument all = [event] := fun event hevent =>
        hall.declarations event (List.mem_append_left _ hevent) argument
      refine (value.declaration_of_value rfl).imp ?_ ?_
      · rintro ⟨hsimple, text, hdraws, hevent⟩
        exact ⟨hsimple, text, hdraws, hdeclarations _ hevent rfl⟩
      · rintro ⟨hsimple, hevent⟩
        exact ⟨hsimple, hdeclarations _ hevent rfl⟩
  | collection site property called kind element name result hdue hshape hissue inside =>
    cases result with
    | error failure => cases kind <;> simp [own, followUp, Plan.collectionEvent] at hown
    | ok value =>
      obtain ⟨-, rfl⟩ : writer = called ∧ argument = name := by
        cases kind <;> simpa [own, followUp, Plan.collectionEvent] using hown
      obtain ⟨-, ty, hty, hofTy⟩ := Plan.writerAndShape_ok hshape
      refine ⟨ty, hty, Plan.fits_collection value hofTy ?_ ?_ ?_⟩
      · refine hall.declarations _ ?_ argument (by cases kind <;> rfl)
        simp [events]
      · have hdeclared : argument ∈ declaredIn (collection site property called kind element
            argument (.ok value) hdue hshape hissue inside).events := by
          rw [events, declaredIn_append, declaredIn_append, declaredIn_opening]
          simp
        rw [hall.acting argument hdeclared]
        exact acting_of_collection hdue hshape hissue inside htarget
      · refine inside.fits_element fun event hevent => hall.declarations event ?_
        exact List.mem_append_left _ (List.mem_append_right _ hevent)
  | _ => cases hown

end Course

namespace Making

variable {catalog : Catalog} {registry : Registry} {settings : Settings} {supply : Supply}
  {root : String} (making : Making catalog registry settings supply root)
  {part : Part making.plan}

theorem embeds (hpart : making.whole.Within part) :
    part.course.Embeds (catalog.fixture registry settings supply root).events where
  declarations := by
    intro event hevent name hname
    have hnodup : (declaredIn making.whole.course.events).Nodup :=
      making.course.issued_declared.nodup
    rw [← making.events_whole]
    exact declarationsOf_eq_singleton hnodup (hpart.events_subset hevent) hname
  acting := by
    intro name hname
    rw [← making.events_whole]
    exact hpart.actingOn_eq making.holders_whole hname

theorem acting_fits (hcatalog : catalog.Loaded) {site : Site} {value : String}
    (hpart : making.whole.Within part) (hsite : part.course.site? = some site)
    (hresult : part.result = .ok value) :
    List.Forall₂
      (making.plan.SetsFitting (catalog.fixture registry settings supply root).events site)
      (making.plan.due (Plan.inOrder site.owner))
      (actingOn site.target (catalog.fixture registry settings supply root).events) := by
  rw [making.acting_of_site hpart hsite]
  refine part.course.acting_of_site_ok hsite hresult ?_
  rintro child property event hchild hjob hown ⟨writer, argument, hwriter, rfl⟩
  have hwithin := hpart.trans hchild
  have hholders := hwithin.holders making.holders_whole
  have hproper := making.follows (hcatalog.follows Ty.Rules.textual_proper) hwithin
  have hembeds := making.embeds hwithin
  obtain ⟨sites, job, before, result, after, course⟩ := child
  obtain rfl : job = .property site property := hjob
  obtain ⟨ty, hty, hfits⟩ :=
    course.fits_property hembeds (hholders (List.mem_singleton_self _)) hproper hown
  exact ⟨writer, argument, ty, hwriter, rfl, hty, hfits⟩

end Making

/-- In a fixture of a catalogue that was read, every call passes on what fits the type of the
property that it sets, with the parameters of the composite replaced by the arguments it was
constructed with. -/
theorem fixture_typed {catalog : Catalog} (hcatalog : catalog.Loaded) (registry : Registry)
    (settings : Settings) (supply : Supply) (root : String) {value : String}
    (hresult : (catalog.fixture registry settings supply root).result = .ok value) :
    let events := (catalog.fixture registry settings supply root).events
    Nonempty (Making catalog registry settings supply root) ∧
      ∀ making : Making catalog registry settings supply root,
        (∀ part site, making.whole.Within part → part.course.site? = some site →
          ∃ due, making.plan.Schedule site.owner due ∧
            List.Forall₂ (making.plan.SetsFitting events site) due
              (actingOn site.target events)) ∧
        ∀ target writer argument, .call target writer argument ∈ events →
          ∃ part site, making.whole.Within part ∧ part.course.site? = some site ∧
            site.target = target := by
  intro events
  constructor
  · cases hscope : effectiveScope catalog settings root with
    | error obstacle =>
      rw [fixture_of_no_scope catalog registry settings supply root hscope] at hresult
      cases hresult
    | ok scope =>
      obtain ⟨making, -⟩ := exists_making catalog registry settings supply root hscope
      exact ⟨making⟩
  · intro making
    constructor
    · intro part site hpart hsite
      have hwhole : making.whole.result = .ok value := making.result_whole.trans hresult
      obtain ⟨last, hlast⟩ := hpart.exists_ok hwhole
      have hnodup := making.nodup_of_site hcatalog.reachable.lawful hsite
      exact ⟨_, making.plan.schedule_due hnodup, making.acting_fits hcatalog hpart hsite hlast⟩
    · intro target writer argument hevent
      have hcall : Event.call target writer argument ∈ making.whole.course.events := by
        rw [making.events_whole]
        exact hevent
      exact Part.accountsFor rfl hcall

/-- A shelf with a list of boxes. -/
def shelfText : String :=
  "\x7b\"types\":[\x7b\"name\":\"pl.Shelf\",\"properties\":[\x7b\"name\":\"boxes\"," ++
    "\"type\":\"List<Box>\",\"writer\":\"setBoxes\"\x7d]\x7d,\x7b\"name\":\"pl.Box\"\x7d]\x7d"

theorem fixture_typed_shelf :
    ∃ catalog, Catalog.ofJson shelfText.toUTF8.toList = .ok catalog ∧
      (catalog.fixture .builtin {} (.seeded 0) "pl.Shelf").result = .ok "shelf" ∧
      ∃ making : Making catalog .builtin {} (.seeded 0) "pl.Shelf",
        ∀ part site, making.whole.Within part → part.course.site? = some site →
          ∃ due, making.plan.Schedule site.owner due ∧
            List.Forall₂ (making.plan.SetsFitting
              (catalog.fixture .builtin {} (.seeded 0) "pl.Shelf").events site) due
              (actingOn site.target (catalog.fixture .builtin {} (.seeded 0) "pl.Shelf").events) := by
  have hread : (match Catalog.ofJson shelfText.toUTF8.toList with
      | .ok catalog =>
        (catalog.fixture .builtin {} (.seeded 0) "pl.Shelf").result.toOption == some "shelf"
      | .error _ => false) = true := by decide +kernel
  split at hread
  · next catalog hcatalog =>
    have hresult : (catalog.fixture .builtin {} (.seeded 0) "pl.Shelf").result = .ok "shelf" := by
      generalize (catalog.fixture .builtin {} (.seeded 0) "pl.Shelf").result = result at hread ⊢
      cases result with
      | error failure => cases hread
      | ok value => exact congrArg _ (by simpa [Except.toOption] using hread)
    obtain ⟨⟨making⟩, hall⟩ :=
      fixture_typed (.ofJson hcatalog) .builtin {} (.seeded 0) "pl.Shelf" hresult
    exact ⟨catalog, hcatalog, hresult, making, (hall making).1⟩
  · cases hread

end Fixture

import Fixture.Proofs.Catalog.Reachable
import Fixture.Proofs.Construction.Parts
import Fixture.Proofs.Plan

/-!
# Every composite is populated

The calls on the variable of a composite are those of the writers of its properties, one for each
that is not to be ignored, in the order of the names of the properties. They lie scattered between
the events of whatever had to be constructed for them, but none of those acts on the variable. When
a construction fails, the composites that were complete have all their calls; the others have those
before the property in their frame of the trail.
-/

namespace Fixture

/-- An event calls the writer of a property on the variable of the site. -/
def Site.Sets (self : Site) (property : Property) (event : Event) : Prop :=
  ∃ writer argument, property.writer = some writer ∧ event = .call self.target writer argument

/-- The calls on a composite for one of its properties: none if the property is to be ignored or
fails, one of its own if it gets a value. -/
inductive Site.Attends (site : Site) (plan : Plan) (property : Property) (own : List Event) :
    Except Failure String → List Event → Prop
  | ignored {value : String} (hignored : plan.settings.ignores property.name = true) :
      Attends site plan property own (.ok value) []
  | called {value : String} {event : Event} (hdue : plan.settings.ignores property.name = false)
      (hown : event ∈ own) (hsets : site.Sets property event) :
      Attends site plan property own (.ok value) [event]
  | failed {failure : Failure} (hdue : plan.settings.ignores property.name = false)
      (hframe : failure.trail.head? = some ⟨site.owner.name, property.name⟩) :
      Attends site plan property own (.error failure) []

theorem Site.Attends.forall₂ {site : Site} {plan : Plan} {property : Property} {value : String}
    {own acting : List Event} {related : Property → Event → Prop}
    (h : site.Attends plan property own (.ok value) acting)
    (hrelated : ∀ event ∈ own, site.Sets property event → related property event) :
    List.Forall₂ related (plan.due [property]) acting := by
  cases h with
  | ignored hignored =>
    rw [Plan.due_ignored hignored]
    exact .nil
  | called hdue hown hsets =>
    rw [Plan.due_of_not_ignored hdue]
    exact .cons (hrelated _ hown hsets) .nil

namespace Course

variable {plan : Plan} {sites outer : List Site} {job : Job} {before after : Stock}
  {result : Except Failure String} {site : Site} {property : Property}

/-! ### The calls on an open composite -/

theorem attends_of_call {value writer argument : String} {shape : Shape} {own acting : List Event}
    (hdue : plan.settings.ignores property.name = false)
    (hshape : plan.writerAndShape site.owner site.args property = .ok (writer, shape))
    (hown : .call site.target writer argument ∈ own)
    (hacting : acting = [.call site.target writer argument]) :
    site.Attends plan property own (.ok value) acting := by
  rw [hacting]
  exact .called hdue hown ⟨writer, argument, (Plan.writerAndShape_ok hshape).1, rfl⟩

theorem attends_property
    (course : Course plan (site :: outer) (.property site property) before result after)
    (htarget : site.target ∈ before.ledger.issued) :
    site.Attends plan property course.own result (actingOn site.target course.events) := by
  cases course with
  | ignored site property hignored => exact .ignored hignored
  | unfit site property obstacle hdue hshape => exact .failed hdue rfl
  | plain site property writer name result hdue hshape hparam drawn =>
    cases result with
    | error failure => exact .failed hdue rfl
    | ok text =>
      have hown := List.mem_singleton_self (Event.call site.target writer text)
      refine attends_of_call hdue hshape hown ?_
      simp [events, followUp, actingOn, Event.owner?]
  | nested site property writer shape raw args result hdue hshape hthrough value =>
    have hvalue : actingOn site.target value.events = [] :=
      actingOn_eq_nil _ (value.not_owner_of_issued htarget List.not_mem_nil)
    rw [events, actingOn_append, hvalue, List.nil_append]
    cases result with
    | error failure => exact .failed hdue rfl
    | ok name =>
      have hown : Event.call site.target writer name ∈ (nested site property writer shape raw args
        (.ok name) hdue hshape hthrough value).own := by simp [own, followUp]
      refine attends_of_call hdue hshape hown ?_
      simp [followUp, actingOn, Event.owner?]
  | collection site property writer kind element name result hdue hshape hissue inside =>
    have hissued := Ledger.Issued.one hissue
    have hinside : actingOn site.target inside.events = [] := by
      refine actingOn_eq_nil _ (inside.not_owner_of_issued (hissued.grows htarget) ?_)
      rw [Job.holders_elementJob]
      exact List.not_mem_nil
    have hopening : actingOn site.target
        [.blank, Plan.collectionEvent kind (Name.simple element.rawName) name] = [] := by
      cases kind <;> rfl
    rw [events, actingOn_append, actingOn_append, hopening, hinside, List.nil_append,
      List.nil_append]
    cases result with
    | error failure => exact .failed hdue rfl
    | ok value =>
      have hne := (hissued.ne_of_issued htarget (List.mem_singleton_self _)).symm
      have hown : Event.call site.target writer name ∈ (collection site property writer kind element
        name (.ok value) hdue hshape hissue inside).own := by simp [own, followUp]
      refine attends_of_call hdue hshape hown ?_
      simp [followUp, actingOn, Event.owner?, hne]

/-- After all properties of a composite, its variable has all the calls. Whatever is so for the call
of each single property is so for all of them. -/
theorem calls_of_properties {rest : List Property} {value : String}
    {related : Property → Event → Prop}
    (course : Course plan (site :: outer) (.properties site rest) before result after)
    (hresult : result = .ok value) (htarget : site.target ∈ before.ledger.issued)
    (hrelated : ∀ part property event, course.part.Within part →
      part.job = .property site property → event ∈ part.course.own → site.Sets property event →
      related property event) :
    List.Forall₂ related (plan.due rest) (actingOn site.target course.events) := by
  induction rest generalizing before with
  | nil =>
    cases course
    exact .nil
  | cons property rest ih =>
    cases course with
    | stop => cases hresult
    | next site property rest result first others =>
      have hwithin : ∀ child ∈ [first.part, others.part],
          (Course.next site property rest result first others).part.Within child :=
        fun child hchild => within_inner _ hchild
      have hfirst := (first.attends_property htarget).forall₂ fun event =>
        hrelated first.part property event (hwithin _ (by simp)) rfl
      have hothers := ih others (first.issued_declared.grows htarget)
        fun part property event hpart =>
          hrelated part property event (.trans (hwithin _ (by simp)) hpart)
      rw [events, actingOn_append, ← List.singleton_append, Plan.due_append]
      exact List.rel_append hfirst hothers

/-- When the properties of a composite end with a failure, its variable has the calls of those
before the one in the frame. -/
theorem calls_of_properties_error {rest : List Property} {failure : Failure}
    (course : Course plan (site :: outer) (.properties site rest) before result after)
    (hresult : result = .error failure) (htarget : site.target ∈ before.ledger.issued) :
    ∃ earlier property later, plan.due rest = plan.due earlier ++ property :: plan.due later ∧
      failure.trail.head? = some ⟨site.owner.name, property.name⟩ ∧
      List.Forall₂ site.Sets (plan.due earlier) (actingOn site.target course.events) := by
  -- The property that fails is the first that is left; those before it have all their calls.
  induction rest generalizing before with
  | nil =>
    cases course
    cases hresult
  | cons property rest ih =>
    cases course with
    | stop site property rest failure first =>
      obtain rfl := Except.error.inj hresult
      have hfirst := first.attends_property htarget
      rw [events]
      generalize actingOn site.target first.events = acting at hfirst ⊢
      cases hfirst with
      | failed hdue hframe =>
        refine ⟨[], property, rest, ?_, hframe, .nil⟩
        rw [← List.singleton_append, Plan.due_append, Plan.due_of_not_ignored hdue]
        rfl
    | next site property rest result first others =>
      have hfirst := (first.attends_property htarget).forall₂ fun _ _ hsets => hsets
      obtain ⟨earlier, failed, later, hrest, hframe, hothers⟩ :=
        ih others (first.issued_declared.grows htarget)
      refine ⟨property :: earlier, failed, later, ?_, hframe, ?_⟩
      · rw [← List.singleton_append, Plan.due_append, hrest, ← List.singleton_append (l := earlier),
          Plan.due_append, List.append_assoc]
      · rw [events, actingOn_append, ← List.singleton_append, Plan.due_append]
        exact List.rel_append hfirst hothers

/-! ### The events of single parts -/

theorem acting_of_site_ok {value : String} {related : Property → Event → Prop}
    (course : Course plan sites job before result after) (hsite : course.site? = some site)
    (hresult : result = .ok value)
    (hrelated : ∀ part property event, course.part.Within part →
      part.job = .property site property → event ∈ part.course.own → site.Sets property event →
      related property event) :
    List.Forall₂ related (plan.due (Plan.inOrder site.owner))
      (actingOn site.target course.events) := by
  obtain ⟨raw, ledger, inside, hinner, -, -, hevents, htarget⟩ := course.exists_inside hsite
  rw [hevents, actingOn_cons_of_owner _ _ rfl]
  exact inside.calls_of_properties hresult htarget fun part property event hpart =>
    hrelated part property event (.trans (.inner .self hinner) hpart)

theorem acting_of_site_error {failure : Failure}
    (course : Course plan sites job before result after) (hsite : course.site? = some site)
    (hresult : result = .error failure)
    (hnodup : (site.owner.properties.map (·.name)).Nodup) :
    ∃ property ∈ plan.due (Plan.inOrder site.owner),
      failure.trail.head? = some ⟨site.owner.name, property.name⟩ ∧
      List.Forall₂ site.Sets
        ((plan.due (Plan.inOrder site.owner)).filter (·.name < property.name))
        (actingOn site.target course.events) := by
  obtain ⟨raw, ledger, inside, -, -, -, hevents, htarget⟩ := course.exists_inside hsite
  obtain ⟨earlier, property, later, hdue, hframe, hcalls⟩ :=
    inside.calls_of_properties_error hresult htarget
  have hascending := (plan.schedule_due hnodup).ascending
  rw [hdue] at hascending ⊢
  refine ⟨property, by simp, hframe, ?_⟩
  rw [hevents, actingOn_cons_of_owner _ _ rfl, Plan.filter_ascending hascending]
  exact hcalls

theorem acting_of_collection {writer name value : String} {kind : CollectionKind} {element : Ty}
    {ledger : Ledger} (hdue : plan.settings.ignores property.name = false)
    (hshape : plan.writerAndShape site.owner site.args property =
      .ok (writer, .collection kind element))
    (hissue : before.ledger.issue property.name = (name, ledger))
    (inside : Course plan (site :: outer) (plan.elementJob element) ⟨before.supply, ledger⟩
      (.ok value) after) (htarget : site.target ∈ before.ledger.issued) :
    actingOn name (collection site property writer kind element name (.ok value) hdue hshape hissue
      inside).events = [.append name value] := by
  have hissued := Ledger.Issued.one hissue
  have hopening : actingOn name
      [.blank, Plan.collectionEvent kind (Name.simple element.rawName) name] = [] := by
    cases kind <;> rfl
  have hinside : actingOn name inside.events = [] := by
    refine actingOn_eq_nil _ (inside.not_owner_of_issued
      (hissued.issued (List.mem_singleton_self _)) ?_)
    rw [Job.holders_elementJob]
    exact List.not_mem_nil
  have hne : site.target ≠ name := hissued.ne_of_issued htarget (List.mem_singleton_self _)
  rw [events, actingOn_append, actingOn_append, hopening, hinside]
  simp [followUp, actingOn, Event.owner?, hne]

theorem acting_on_collection {name value : String}
    (course : Course plan sites job before result after) (hresult : result = .ok value)
    (hholders : job.holders ⊆ before.ledger.issued) (hname : name ∈ collectionsIn course.own) :
    name ∈ declaredIn course.events ∧
      ∃ element, actingOn name course.events = [.append name element] := by
  cases course with
  | collection site property writer kind element collection result hdue hshape hissue inside =>
    cases result with
    | error failure => cases hresult
    | ok value =>
      obtain rfl : collection = name := by
        cases kind <;>
          simpa [own, followUp, collectionsIn, Plan.collectionEvent, Event.collection?] using hname
      constructor
      · rw [events, declaredIn_append, declaredIn_append, declaredIn_opening]
        simp
      · exact ⟨value, acting_of_collection hdue hshape hissue inside
          (hholders (List.mem_singleton_self _))⟩
  | simple raw args target result =>
    cases result <;> simp [own, followUp, collectionsIn, Event.collection?] at hname
  | plain site property writer text result =>
    cases result <;> simp [own, followUp, collectionsIn, Event.collection?] at hname
  | nested site property writer shape raw args result =>
    cases result <;> simp [own, followUp, collectionsIn, Event.collection?] at hname
  | composite => simp [own, Plan.declaration, collectionsIn, Event.collection?] at hname
  | _ => simp [own, collectionsIn] at hname

end Course

/-! ### The whole fixture -/

namespace Part

variable {plan : Plan} {whole part : Part plan} {site : Site}

/-- Where the events of a construction come from: every declaration is that of a composite or of a
simple value, every call acts on a composite, and every element goes into a collection. -/
def AccountsFor (whole : Part plan) : Event → Prop
  | .declare type name _ =>
    (∃ part site, whole.Within part ∧ part.course.site? = some site ∧ site.target = name) ∨
      ∃ raw, plan.isSimple raw = true ∧ Name.simple raw = type
  | .call owner _ _ =>
    ∃ part site, whole.Within part ∧ part.course.site? = some site ∧ site.target = owner
  | .append collection _ => collection ∈ collectionsIn whole.course.events
  | _ => True

theorem accountsFor (hsites : whole.sites = []) {event : Event}
    (hevent : event ∈ whole.course.events) : whole.AccountsFor event := by
  obtain ⟨part, hpart, hown⟩ := whole.course.exists_own hevent
  obtain ⟨sites, job, before, result, after, course⟩ := part
  cases course with
  | simple raw args target result hissue hsimple drawn =>
    cases result with
    | error failure => cases hown
    | ok text =>
      obtain rfl := List.mem_singleton.1 hown
      exact .inr ⟨raw, hsimple, rfl⟩
  | composite raw args target owner result hissue hsimple henter hdepth inside =>
    obtain rfl := List.mem_singleton.1 hown
    exact .inl ⟨_, _, hpart, rfl, rfl⟩
  | plain site property writer name result =>
    cases result with
    | error failure => cases hown
    | ok text =>
      obtain rfl := List.mem_singleton.1 hown
      obtain ⟨maker, hmaker, hsite⟩ := hpart.exists_maker hsites (List.mem_cons_self ..)
      exact ⟨maker, site, hmaker, hsite, rfl⟩
  | nested site property writer shape raw args result =>
    cases result with
    | error failure => cases hown
    | ok name =>
      obtain ⟨maker, hmaker, hsite⟩ := hpart.exists_maker hsites (List.mem_cons_self ..)
      simp only [Course.own, followUp, List.mem_cons, List.not_mem_nil, or_false] at hown
      rcases hown with rfl | rfl | rfl
      · trivial
      · exact ⟨maker, site, hmaker, hsite, rfl⟩
      · trivial
  | collection site property writer kind element collection result hdue hshape hissue inside =>
    obtain ⟨maker, hmaker, hsite⟩ := hpart.exists_maker hsites (List.mem_cons_self ..)
    have hcollection : collection ∈ collectionsIn whole.course.events := by
      refine List.mem_filterMap.2
        ⟨Plan.collectionEvent kind (Name.simple element.rawName) collection, ?_, ?_⟩
      · exact hpart.events_subset ((Course.mem_events _).2 (.inl (by simp [Course.own])))
      · cases kind <;> rfl
    rcases List.mem_append.1 hown with hopening | hfilling
    · rcases List.mem_pair.1 hopening with rfl | rfl
      · trivial
      · cases kind <;> trivial
    · cases result with
      | error failure => cases hfilling
      | ok value =>
        simp only [followUp, List.mem_cons, List.not_mem_nil, or_false] at hfilling
        rcases hfilling with rfl | rfl | rfl
        · exact hcollection
        · exact ⟨maker, site, hmaker, hsite, rfl⟩
        · trivial
  | _ => cases hown

/-- A composite has been declared and has got the calls of all properties on its schedule; or, if
its construction failed, of those before the property in its frame of the trail. -/
structure Populated (part : Part plan) (site : Site) (outcome : Outcome) : Prop where
  declared : ∃ raw, plan.composite raw = .ok site.owner ∧
    Plan.declaration raw site.args site.target ∈ outcome.events
  calls : ∃ due, plan.Schedule site.owner due ∧
    (∀ value, part.result = .ok value →
      List.Forall₂ site.Sets due (actingOn site.target outcome.events)) ∧
    ∀ inner, part.result = .error inner →
      ∃ failure, outcome.result = .error failure ∧ ∃ property ∈ due,
        failure.trail[part.sites.length]? = some ⟨site.owner.name, property.name⟩ ∧
        List.Forall₂ site.Sets (due.filter (·.name < property.name))
          (actingOn site.target outcome.events)

end Part

namespace Making

variable {catalog : Catalog} {registry : Registry} {settings : Settings} {supply : Supply}
  {root : String} (making : Making catalog registry settings supply root)
  {part : Part making.plan} {site : Site}

theorem acting_of_site (hpart : making.whole.Within part) (hsite : part.course.site? = some site) :
    actingOn site.target (catalog.fixture registry settings supply root).events =
      actingOn site.target part.course.events := by
  obtain ⟨raw, ledger, inside, -, -, -, hevents, -⟩ := part.course.exists_inside hsite
  rw [← making.events_whole]
  refine hpart.actingOn_eq making.holders_whole ?_
  simp [hevents, Plan.declaration, Event.declared?]

theorem nodup_of_site (hcatalog : catalog.Lawful) (hsite : part.course.site? = some site) :
    (site.owner.properties.map (·.name)).Nodup := by
  obtain ⟨raw, ledger, inside, -, -, henter, -, -⟩ := part.course.exists_inside hsite
  have howner := Plan.mem_of_composite (Plan.composite_of_enter henter)
  exact (Catalog.nodup_of_flawless (hcatalog.flawless _ howner)).2

theorem populated (hcatalog : catalog.Lawful) (hpart : making.whole.Within part)
    (hsite : part.course.site? = some site) :
    part.Populated site (catalog.fixture registry settings supply root) := by
  have hnodup := making.nodup_of_site hcatalog hsite
  constructor
  · obtain ⟨raw, ledger, inside, -, -, henter, hevents, -⟩ := part.course.exists_inside hsite
    refine ⟨raw, Plan.composite_of_enter henter, ?_⟩
    rw [← making.events_whole]
    exact hpart.events_subset (by simp [hevents])
  · rw [making.acting_of_site hpart hsite, ← making.result_whole]
    refine ⟨_, making.plan.schedule_due hnodup, ?_, ?_⟩
    · intro value hresult
      exact part.course.acting_of_site_ok hsite hresult fun _ _ _ _ _ _ hsets => hsets
    · intro failure hresult
      obtain ⟨frames, hwhole, hlength⟩ := hpart.failure_eq hresult
      obtain ⟨property, hproperty, hframe, hcalls⟩ :=
        part.course.acting_of_site_error hsite hresult hnodup
      refine ⟨_, hwhole, property, hproperty, ?_, hcalls⟩
      obtain ⟨raw, ledger, inside, -, hjob, -, -, -⟩ := part.course.exists_inside hsite
      have hlength : frames.length = part.sites.length := by
        rw [hjob] at hlength
        simpa [whole, Course.part, Job.frames] using hlength
      rw [List.getElem?_append_right (by omega), hlength, Nat.sub_self, ← hframe,
        List.head?_eq_getElem?]

theorem filled {value name : String} (hpart : making.whole.Within part)
    (hresult : part.result = .ok value) (hname : name ∈ collectionsIn part.course.events) :
    ∃ element, actingOn name (catalog.fixture registry settings supply root).events =
      [.append name element] := by
  obtain ⟨event, hevent, hcollection⟩ := List.mem_filterMap.1 hname
  obtain ⟨child, hchild, hown⟩ := part.course.exists_own hevent
  obtain ⟨value, hvalue⟩ := hchild.exists_ok hresult
  have hwithin := hpart.trans hchild
  obtain ⟨hdeclared, element, helement⟩ := child.course.acting_on_collection hvalue
    (hwithin.holders making.holders_whole) (List.mem_filterMap.2 ⟨event, hown, hcollection⟩)
  refine ⟨element, ?_⟩
  rw [← making.events_whole, hwithin.actingOn_eq making.holders_whole hdeclared, helement]

end Making

/-- In a fixture of a reachable catalogue, every composite has the calls that its construction came
to, in order and no others; every collection in a part that has not failed gets one element; and
nothing else is called or gets an element. When the fixture succeeds, no part of it has failed. -/
theorem fixture_populated {catalog : Catalog} (hcatalog : catalog.Reachable) (registry : Registry)
    (settings : Settings) (supply : Supply) (root : String) :
    let outcome := catalog.fixture registry settings supply root
    (outcome.events = [] ∨ Nonempty (Making catalog registry settings supply root)) ∧
      ∀ making : Making catalog registry settings supply root,
        (∀ part site, making.whole.Within part → part.course.site? = some site →
          part.Populated site outcome) ∧
        (∀ part value, making.whole.Within part → part.result = .ok value →
          ∀ name ∈ collectionsIn part.course.events,
            ∃ element, actingOn name outcome.events = [.append name element]) ∧
        (∀ event ∈ outcome.events, making.whole.AccountsFor event) ∧
        ∀ value, outcome.result = .ok value →
          (∀ part, making.whole.Within part → ∃ value, part.result = .ok value) ∧
          ∀ name ∈ collectionsIn outcome.events,
            ∃ element, actingOn name outcome.events = [.append name element] := by
  intro outcome
  refine ⟨events_nil_or_making catalog registry settings supply root, fun making => ?_⟩
  refine ⟨fun part site hpart hsite => making.populated hcatalog.lawful hpart hsite,
    fun part value hpart hresult name hname => making.filled hpart hresult hname, ?_, ?_⟩
  · intro event hevent
    exact Part.accountsFor rfl (making.events_whole ▸ hevent)
  · intro value hvalue
    have hwhole : making.whole.result = .ok value := making.result_whole.trans hvalue
    refine ⟨fun part hpart => hpart.exists_ok hwhole, fun name hname => ?_⟩
    exact making.filled .self hwhole (making.events_whole ▸ hname)

/-- A house with a door of some colour and with rooms. -/
def house : Catalog where
  definitions := [
    .composite ⟨"House", "pl", [], [
      ⟨"rooms", .applied "List" [.named "Room"], none, some "setRooms"⟩,
      ⟨"door", .named "Door", none, some "setDoor"⟩]⟩,
    .composite ⟨"Door", "pl", [], [⟨"colour", .named "Colour", none, some "setColour"⟩]⟩,
    .composite ⟨"Room", "pl", [], []⟩,
    .enumeration ⟨"Colour", "pl", ["RED"]⟩]

theorem house_reachable : house.Reachable :=
  .ofDefinitions (rfl : Catalog.ofDefinitions house.definitions = .ok house)

theorem fixture_populated_house :
    house.Reachable ∧ ∃ element,
      actingOn "rooms" (house.fixture .builtin {} (.seeded 0) "pl.House").events =
        [.append "rooms" element] := by
  obtain ⟨hsome, hall⟩ := fixture_populated house_reachable .builtin {} (.seeded 0) "pl.House"
  have hresult : (house.fixture .builtin {} (.seeded 0) "pl.House").result = .ok "house" := rfl
  have hrooms :
      collectionsIn (house.fixture .builtin {} (.seeded 0) "pl.House").events = ["rooms"] := by
    decide +kernel
  rcases hsome with hnone | ⟨⟨making⟩⟩
  · rw [hnone] at hrooms
    cases hrooms
  · obtain ⟨-, -, -, hsuccess⟩ := hall making
    obtain ⟨-, hfilled⟩ := hsuccess "house" hresult
    exact ⟨house_reachable, hfilled "rooms" (hrooms ▸ List.mem_singleton_self _)⟩

end Fixture

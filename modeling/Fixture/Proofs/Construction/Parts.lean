import Fixture.Proofs.Construction.Naming
import Fixture.Proofs.Plan

/-!
# The parts of a course

The course of a job contains the courses of the jobs that it gave rise to. What holds of every part
of a construction is shown one step at a time, from a job to the jobs directly inside it: where the
part stands among the open composites, how its failure becomes the failure of the whole, and that
all events on its variables are its own.
-/

namespace Fixture

/-- A job that was taken up in a construction, with its course. -/
structure Part (plan : Plan) where
  sites : List Site
  job : Job
  before : Stock
  result : Except Failure String
  after : Stock
  course : Course plan sites job before result after

namespace Job

/-- How many frames a job puts in front of the trail of a failure. -/
def frames : Job → Nat
  | .literal _ => 0
  | .value _ _ => 0
  | .property _ _ => 1
  | .properties _ _ => 1

theorem frames_elementJob (plan : Plan) (element : Ty) : (plan.elementJob element).frames = 0 := by
  rw [Plan.elementJob]
  split <;> rfl

/-- All types that a job goes by follow rules; only declared types have parameters. -/
def Follows (rules : Ty.Rules) : Job → Prop
  | .literal _ => True
  | .value _ args => ∀ arg ∈ args, arg.Follows rules False
  | .property site due => (∀ arg ∈ site.args, arg.Follows rules False) ∧ due.ty.Follows rules True
  | .properties site rest =>
    (∀ arg ∈ site.args, arg.Follows rules False) ∧ ∀ due ∈ rest, due.ty.Follows rules True

end Job

namespace Course

variable {plan : Plan} {sites : List Site} {job : Job} {before after : Stock}
  {result : Except Failure String}

def part (course : Course plan sites job before result after) : Part plan :=
  ⟨sites, job, before, result, after, course⟩

/-- The jobs that a job gives rise to. -/
def inner {sites : List Site} {job : Job} {before after : Stock} {result : Except Failure String} :
    Course plan sites job before result after → List (Part plan)
  | .literal .. => []
  | .simple _ _ _ _ _ _ drawn => [drawn.part]
  | .barred .. => []
  | .tooDeep .. => []
  | .composite _ _ _ _ _ _ _ _ _ inside => [inside.part]
  | .ignored .. => []
  | .unfit .. => []
  | .plain _ _ _ _ _ _ _ _ drawn => [drawn.part]
  | .nested _ _ _ _ _ _ _ _ _ _ value => [value.part]
  | .collection _ _ _ _ _ _ _ _ _ _ inside => [inside.part]
  | .done .. => []
  | .next _ _ _ _ first others => [first.part, others.part]
  | .stop _ _ _ _ first => [first.part]

/-- The events that a job emits itself, apart from the jobs inside it. -/
def own {sites : List Site} {job : Job} {before after : Stock} {result : Except Failure String} :
    Course plan sites job before result after → List Event
  | .literal .. => []
  | .simple raw _ target result _ _ _ =>
    followUp result fun text => [.declare (Name.simple raw) target text]
  | .barred .. => []
  | .tooDeep .. => []
  | .composite raw args target _ _ _ _ _ _ _ => [Plan.declaration raw args target]
  | .ignored .. => []
  | .unfit .. => []
  | .plain site _ writer _ result _ _ _ _ =>
    followUp result fun text => [.call site.target writer text]
  | .nested site _ writer _ _ _ result _ _ _ _ =>
    followUp result fun name => [.blank, .call site.target writer name, .blank]
  | .collection site _ writer kind element name result _ _ _ _ =>
    [.blank, Plan.collectionEvent kind (Name.simple element.rawName) name] ++
      followUp result fun value =>
        [.append name value, .call site.target writer name, .blank]
  | .done .. => []
  | .next .. => []
  | .stop .. => []

/-- The composite that a job brings into being. -/
def site? {sites : List Site} {job : Job} {before after : Stock} {result : Except Failure String} :
    Course plan sites job before result after → Option Site
  | .composite _ args target owner _ _ _ _ _ _ => some ⟨target, owner, args⟩
  | _ => none

end Course

/-- A part of another one: it itself, or what a part of it gave rise to. -/
inductive Part.Within {plan : Plan} (whole : Part plan) : Part plan → Prop
  | self : Within whole whole
  | inner {part child : Part plan} (hpart : Within whole part)
      (hchild : child ∈ part.course.inner) : Within whole child

namespace Part

variable {plan : Plan} {whole part child : Part plan}

theorem Within.trans (hpart : Within whole part) (hchild : Within part child) :
    Within whole child := by
  induction hchild with
  | self => exact hpart
  | inner _ hchild ih => exact .inner ih hchild

theorem induction {motive : Part plan → Prop}
    (hstep : ∀ part, (∀ child ∈ part.course.inner, motive child) → motive part)
    (part : Part plan) : motive part := by
  obtain ⟨sites, job, before, result, after, course⟩ := part
  induction course with
  | simple raw args target result hissue hsimple drawn ih => exact hstep _ (by simpa [Course.inner])
  | composite raw args target owner result hissue hsimple henter hdepth inside ih =>
    exact hstep _ (by simpa [Course.inner])
  | plain site property writer name result hdue hshape hparam drawn ih =>
    exact hstep _ (by simpa [Course.inner])
  | nested site property writer shape raw args result hdue hshape hthrough value ih =>
    exact hstep _ (by simpa [Course.inner])
  | collection site property writer kind element name result hdue hshape hissue inside ih =>
    exact hstep _ (by simpa [Course.inner])
  | next site property rest result first others ihfirst ihothers =>
    exact hstep _ (by simpa [Course.inner] using ⟨ihfirst, ihothers⟩)
  | stop site property rest failure first ih => exact hstep _ (by simpa [Course.inner])
  | _ => exact hstep _ (by simp [Course.inner])

end Part

namespace Course

variable {plan : Plan} {sites : List Site} {job : Job} {before after : Stock}
  {result : Except Failure String} (course : Course plan sites job before result after)

theorem mem_events {event : Event} :
    event ∈ course.events ↔
      event ∈ course.own ∨ ∃ child ∈ course.inner, event ∈ child.course.events := by
  cases course with
  | literal => simp [events, own, inner]
  | simple raw args target result hissue hsimple drawn =>
    simp [events, own, inner, part, drawn.events_literal]
  | plain site property writer name result hdue hshape hparam drawn =>
    simp [events, own, inner, part, drawn.events_literal]
  | collection => simp [events, own, inner, part]; tauto
  | _ => simp [events, own, inner, part, or_comm]

theorem exists_own {event : Event} (hevent : event ∈ course.events) :
    ∃ part, course.part.Within part ∧ event ∈ part.course.own := by
  suffices ∀ part : Part plan, event ∈ part.course.events →
      ∃ child, part.Within child ∧ event ∈ child.course.own from this course.part hevent
  refine Part.induction fun part ih hevent => ?_
  rcases part.course.mem_events.1 hevent with hown | ⟨child, hchild, hevent⟩
  · exact ⟨part, .self, hown⟩
  · obtain ⟨deep, hdeep, hown⟩ := ih child hchild hevent
    exact ⟨deep, .trans (.inner .self hchild) hdeep, hown⟩

theorem within_inner {child : Part plan} (hchild : child ∈ course.inner) :
    course.part.Within child := .inner .self hchild

variable {site : Site}

theorem exists_inside (hsite : course.site? = some site) :
    ∃ raw ledger, ∃ inside : Course plan (site :: sites)
        (.properties site (Plan.inOrder site.owner)) ⟨before.supply, ledger⟩ result after,
      inside.part ∈ course.inner ∧ job = .value raw site.args ∧
      plan.enter raw site.args (sites.map Site.key) = .ok site.owner ∧
      course.events = Plan.declaration raw site.args site.target :: inside.events ∧
      site.target ∈ ledger.issued := by
  cases course with
  | composite raw args target owner result hissue hsimple henter hdepth inside =>
    obtain rfl : ⟨target, owner, args⟩ = site := by simpa [site?] using hsite
    exact ⟨raw, _, inside, List.mem_singleton_self _, rfl, henter, rfl,
      (Ledger.Issued.one hissue).issued (List.mem_singleton_self _)⟩
  | _ => simp [site?] at hsite

/-! ### One step further inside -/

variable {child : Part plan} {name : String}

theorem holders_inner (hholders : job.holders ⊆ before.ledger.issued)
    (hchild : child ∈ course.inner) : child.job.holders ⊆ child.before.ledger.issued := by
  cases course with
  | composite raw args target owner result hissue hsimple henter hdepth inside =>
    obtain rfl : child = inside.part := by simpa [inner] using hchild
    simpa [part, Job.holders] using (Ledger.Issued.one hissue).issued (List.mem_singleton_self _)
  | collection site property writer kind element name result hdue hshape hissue inside =>
    obtain rfl : child = inside.part := by simpa [inner] using hchild
    simp [part, Job.holders_elementJob]
  | next site property rest result first others =>
    obtain rfl | rfl : child = first.part ∨ child = others.part := by simpa [inner] using hchild
    · exact hholders
    · exact List.Subset.trans hholders first.issued_declared.grows
  | stop site property rest failure first =>
    obtain rfl : child = first.part := by simpa [inner] using hchild
    exact hholders
  | simple | plain | nested =>
    obtain rfl := List.mem_singleton.1 hchild
    exact List.nil_subset _
  | _ => simp [inner] at hchild

theorem events_around (hholders : job.holders ⊆ before.ledger.issued)
    (hchild : child ∈ course.inner) :
    ∃ earlier later, course.events = earlier ++ child.course.events ++ later ∧
      ∀ name ∈ declaredIn child.course.events, name ∉ ownersIn earlier ∧ name ∉ ownersIn later := by
  cases course with
  | simple raw args target result hissue hsimple drawn =>
    obtain rfl := List.mem_singleton.1 hchild
    have hnone : drawn.part.course.events = [] := drawn.events_literal
    exact ⟨_, [], by rw [hnone, List.append_nil, List.append_nil], by simp [hnone]⟩
  | composite raw args target owner result hissue hsimple henter hdepth inside =>
    obtain rfl := List.mem_singleton.1 hchild
    refine ⟨[Plan.declaration raw args target], [], by simp [events, part], ?_⟩
    simp [Plan.declaration, Event.owner?]
  | plain site property writer name result hdue hshape hparam drawn =>
    obtain rfl := List.mem_singleton.1 hchild
    have hnone : drawn.part.course.events = [] := drawn.events_literal
    exact ⟨_, [], by rw [hnone, List.append_nil, List.append_nil], by simp [hnone]⟩
  | nested site property writer shape raw args result hdue hshape hthrough value =>
    obtain rfl := List.mem_singleton.1 hchild
    refine ⟨[], _, rfl, fun name hname => ⟨by simp, ?_⟩⟩
    have htarget : site.target ∈ (Ledger.issued _) := hholders (List.mem_singleton_self _)
    have hne := value.issued_declared.ne_of_issued htarget hname
    cases result <;> simp [followUp, Event.owner?, hne.symm]
  | collection site property writer kind element name result hdue hshape hissue inside =>
    obtain rfl := List.mem_singleton.1 hchild
    refine ⟨_, _, rfl, fun other hother => ⟨?_, ?_⟩⟩
    · cases kind <;> simp [Plan.collectionEvent, Event.owner?]
    · have hissued := Ledger.Issued.one hissue
      have hname := inside.issued_declared.ne_of_issued
        (hissued.issued (List.mem_singleton_self _)) hother
      have htarget := inside.issued_declared.ne_of_issued
        (hissued.grows (hholders (List.mem_singleton_self _))) hother
      cases result <;> simp [followUp, Event.owner?, hname.symm, htarget.symm]
  | next site property rest result first others =>
    obtain rfl | rfl : child = first.part ∨ child = others.part := by simpa [inner] using hchild
    · exact ⟨[], _, rfl, fun name hname => ⟨by simp, first.not_owner_later others hholders hname⟩⟩
    · refine ⟨_, [], (List.append_nil _).symm, fun name hname => ⟨fun howner => ?_, by simp⟩⟩
      refine others.issued_declared.fresh name hname ?_
      rcases List.mem_append.1 (first.events_scoped.owner_mem howner) with hholder | hdeclared
      · exact first.issued_declared.grows (hholders hholder)
      · exact first.issued_declared.issued hdeclared
  | stop site property rest failure first =>
    obtain rfl := List.mem_singleton.1 hchild
    exact ⟨[], [], by simp [events, part], by simp⟩
  | _ => simp [inner] at hchild

theorem actingOn_inner (hholders : job.holders ⊆ before.ledger.issued)
    (hchild : child ∈ course.inner) (hname : name ∈ declaredIn child.course.events) :
    actingOn name course.events = actingOn name child.course.events := by
  obtain ⟨earlier, later, hevents, hapart⟩ := course.events_around hholders hchild
  obtain ⟨hearlier, hlater⟩ := hapart name hname
  rw [hevents, actingOn_append, actingOn_append, actingOn_eq_nil _ hearlier,
    actingOn_eq_nil _ hlater]
  simp

theorem declared_inner (hholders : job.holders ⊆ before.ledger.issued)
    (hchild : child ∈ course.inner) :
    declaredIn child.course.events ⊆ declaredIn course.events := by
  obtain ⟨earlier, later, hevents, -⟩ := course.events_around hholders hchild
  rw [hevents, declaredIn_append, declaredIn_append]
  exact List.Subset.trans (List.subset_append_right _ _) (List.subset_append_left _ _)

/-- A failure goes on outwards, and every property on its way puts one frame in front of the
trail. -/
theorem failure_inner (hchild : child ∈ course.inner) {failure : Failure}
    (hfailure : child.result = .error failure) :
    ∃ frames, result = .error ⟨failure.obstacle, frames ++ failure.trail⟩ ∧
      frames.length + sites.length + child.job.frames = child.sites.length + job.frames := by
  cases course with
  | simple raw args target result hissue hsimple drawn =>
    obtain rfl := List.mem_singleton.1 hchild
    obtain rfl : result = .error failure := hfailure
    exact ⟨[], rfl, by simp [part, Job.frames]⟩
  | composite raw args target owner result hissue hsimple henter hdepth inside =>
    obtain rfl := List.mem_singleton.1 hchild
    obtain rfl : result = .error failure := hfailure
    exact ⟨[], rfl, by simp [part, Job.frames]⟩
  | plain site property writer name result hdue hshape hparam drawn =>
    obtain rfl := List.mem_singleton.1 hchild
    obtain rfl : result = .error failure := hfailure
    refine ⟨[⟨site.owner.name, property.name⟩], rfl, ?_⟩
    simp [part, Job.frames, Nat.add_comm]
  | nested site property writer shape raw args result hdue hshape hthrough value =>
    obtain rfl := List.mem_singleton.1 hchild
    obtain rfl : result = .error failure := hfailure
    refine ⟨[⟨site.owner.name, property.name⟩], rfl, ?_⟩
    simp [part, Job.frames, Nat.add_comm]
  | collection site property writer kind element name result hdue hshape hissue inside =>
    obtain rfl := List.mem_singleton.1 hchild
    obtain rfl : result = .error failure := hfailure
    refine ⟨[⟨site.owner.name, property.name⟩], rfl, ?_⟩
    show 1 + (site :: _).length + (plan.elementJob element).frames = (site :: _).length + 1
    rw [Job.frames_elementJob]
    omega
  | next site property rest result first others =>
    obtain rfl | rfl : child = first.part ∨ child = others.part := by simpa [inner] using hchild
    · simp [part] at hfailure
    · exact ⟨[], hfailure, by simp [part, Job.frames]⟩
  | stop site property rest failure first =>
    obtain rfl := List.mem_singleton.1 hchild
    exact ⟨[], hfailure, by simp [part, Job.frames]⟩
  | _ => simp [inner] at hchild

theorem sites_inner (hchild : child ∈ course.inner) :
    child.sites = sites ∨ ∃ site, course.site? = some site ∧ child.sites = site :: sites := by
  cases course with
  | composite raw args target owner result hissue hsimple henter hdepth inside =>
    obtain rfl := List.mem_singleton.1 hchild
    exact .inr ⟨_, rfl, rfl⟩
  | next site property rest result first others =>
    obtain rfl | rfl : child = first.part ∨ child = others.part := by simpa [inner] using hchild
    · exact .inl rfl
    · exact .inl rfl
  | simple | plain | nested | collection | stop =>
    obtain rfl := List.mem_singleton.1 hchild
    exact .inl rfl
  | _ => simp [inner] at hchild

theorem follows_inner {rules : Ty.Rules} (hcatalog : plan.catalog.Follows rules)
    (hjob : job.Follows rules) (hchild : child ∈ course.inner) : child.job.Follows rules := by
  cases course with
  | simple | plain =>
    obtain rfl := List.mem_singleton.1 hchild
    trivial
  | composite raw args target owner result hissue hsimple henter hdepth inside =>
    obtain rfl := List.mem_singleton.1 hchild
    have howner := Plan.mem_of_composite (Plan.composite_of_enter henter)
    refine ⟨hjob, fun property hproperty => ?_⟩
    exact hcatalog _ howner property ((Plan.perm_inOrder owner).mem_iff.1 hproperty)
  | nested site property writer shape raw args result hdue hshape hthrough value =>
    obtain rfl := List.mem_singleton.1 hchild
    obtain ⟨-, ty, hty, hofTy⟩ := Plan.writerAndShape_ok hshape
    have hfollows := Plan.propertyType_follows hjob.2 hjob.1 hty
    cases hthrough with
    | composite raw args => exact Shape.args_follow hofTy hfollows
    | simple name hparam => exact List.forall_mem_nil _
  | collection site property writer kind element name result hdue hshape hissue inside =>
    obtain rfl := List.mem_singleton.1 hchild
    show (plan.elementJob element).Follows rules
    rw [Plan.elementJob]
    split
    · trivial
    · exact List.forall_mem_nil _
  | next site property rest result first others =>
    obtain ⟨hproperty, hrest⟩ := List.forall_mem_cons.1 hjob.2
    obtain rfl | rfl : child = first.part ∨ child = others.part := by simpa [inner] using hchild
    · exact ⟨hjob.1, hproperty⟩
    · exact ⟨hjob.1, hrest⟩
  | stop site property rest failure first =>
    obtain rfl := List.mem_singleton.1 hchild
    exact ⟨hjob.1, hjob.2 property (List.mem_cons_self ..)⟩
  | _ => simp [inner] at hchild

end Course

/-! ### However far inside -/

namespace Part.Within

variable {plan : Plan} {whole part : Part plan} (hpart : whole.Within part)

include hpart

theorem events_subset : part.course.events ⊆ whole.course.events := by
  induction hpart with
  | self => exact List.Subset.refl _
  | inner hpart hchild ih =>
    intro event hevent
    exact ih ((Course.mem_events _).2 (.inr ⟨_, hchild, hevent⟩))

theorem holders (hholders : whole.job.holders ⊆ whole.before.ledger.issued) :
    part.job.holders ⊆ part.before.ledger.issued := by
  induction hpart with
  | self => exact hholders
  | inner _ hchild ih => exact Course.holders_inner _ ih hchild

theorem actingOn_eq (hholders : whole.job.holders ⊆ whole.before.ledger.issued) {name : String}
    (hname : name ∈ declaredIn part.course.events) :
    actingOn name whole.course.events = actingOn name part.course.events := by
  induction hpart with
  | self => rfl
  | @inner part child hpart hchild ih =>
    have hissued := hpart.holders hholders
    have hdeclared := part.course.declared_inner hissued hchild hname
    exact (ih hdeclared).trans (part.course.actingOn_inner hissued hchild hname)

theorem failure_eq {failure : Failure} (hfailure : part.result = .error failure) :
    ∃ frames, whole.result = .error ⟨failure.obstacle, frames ++ failure.trail⟩ ∧
      frames.length + whole.sites.length + part.job.frames =
        part.sites.length + whole.job.frames := by
  induction hpart generalizing failure with
  | self => exact ⟨[], hfailure, by simp⟩
  | inner _ hchild ih =>
    obtain ⟨near, hnear, hnearLength⟩ := Course.failure_inner _ hchild hfailure
    obtain ⟨far, hfar, hfarLength⟩ := ih hnear
    refine ⟨far ++ near, by rw [hfar, List.append_assoc], ?_⟩
    rw [List.length_append]
    omega

theorem exists_ok {value : String} (hwhole : whole.result = .ok value) :
    ∃ value, part.result = .ok value := by
  cases hresult : part.result with
  | ok value => exact ⟨value, rfl⟩
  | error failure =>
    obtain ⟨frames, hfailure, -⟩ := hpart.failure_eq hresult
    rw [hfailure] at hwhole
    cases hwhole

theorem mem_sites {site : Site} (hsite : site ∈ part.sites) :
    site ∈ whole.sites ∨ ∃ maker, whole.Within maker ∧ maker.course.site? = some site := by
  induction hpart with
  | self => exact .inl hsite
  | inner hpart hchild ih =>
    rcases Course.sites_inner _ hchild with hsame | ⟨new, hnew, hsites⟩
    · exact ih (hsame ▸ hsite)
    · rcases List.mem_cons.1 (hsites ▸ hsite) with rfl | hmem
      · exact .inr ⟨_, hpart, hnew⟩
      · exact ih hmem

theorem exists_maker (hsites : whole.sites = []) {site : Site} (hsite : site ∈ part.sites) :
    ∃ maker, whole.Within maker ∧ maker.course.site? = some site := by
  rcases hpart.mem_sites hsite with hopen | hmaker
  · rw [hsites] at hopen
    cases hopen
  · exact hmaker

end Part.Within

/-! ### The parts of a fixture -/

namespace Making

variable {catalog : Catalog} {registry : Registry} {settings : Settings} {supply : Supply}
  {root : String} (making : Making catalog registry settings supply root)

def plan : Plan := ⟨catalog, registry, settings, making.scope⟩

/-- The construction of the root, of which all others are parts. -/
def whole : Part making.plan := making.course.part

theorem events_whole : making.whole.course.events =
    (catalog.fixture registry settings supply root).events := making.events_eq.symm

theorem result_whole : making.whole.result =
    (catalog.fixture registry settings supply root).result := making.result_eq.symm

theorem follows {rules : Ty.Rules} {part : Part making.plan} (hcatalog : catalog.Follows rules)
    (hpart : making.whole.Within part) : part.job.Follows rules := by
  induction hpart with
  | self => exact List.forall_mem_nil _
  | inner _ hchild ih => exact Course.follows_inner _ hcatalog ih hchild

theorem holders_whole : making.whole.job.holders ⊆ making.whole.before.ledger.issued :=
  List.nil_subset _

variable {part : Part making.plan} {site : Site}

theorem exists_entry (hpart : making.whole.Within part) (hsite : site ∈ part.sites) :
    ∃ maker raw, making.whole.Within maker ∧ maker.course.site? = some site ∧
      maker.job = .value raw site.args ∧
      making.plan.enter raw site.args (maker.sites.map Site.key) = .ok site.owner := by
  obtain ⟨maker, hmaker, hnew⟩ := hpart.exists_maker rfl hsite
  obtain ⟨raw, ledger, inside, -, hjob, henter, -⟩ := maker.course.exists_inside hnew
  exact ⟨maker, raw, hmaker, hnew, hjob, henter⟩

theorem follows_of_mem_sites {rules : Ty.Rules} (hcatalog : catalog.Follows rules)
    (hpart : making.whole.Within part) (hsite : site ∈ part.sites) :
    ∀ arg ∈ site.args, arg.Follows rules False := by
  obtain ⟨maker, raw, hmaker, -, hjob, -⟩ := making.exists_entry hpart hsite
  have hfollows := making.follows hcatalog hmaker
  rwa [hjob] at hfollows

theorem mem_of_mem_sites (hpart : making.whole.Within part) (hsite : site ∈ part.sites) :
    .composite site.owner ∈ catalog.definitions := by
  obtain ⟨maker, raw, -, -, -, henter⟩ := making.exists_entry hpart hsite
  exact Plan.mem_of_composite (Plan.composite_of_enter henter)

end Making

end Fixture

import Fixture.Proofs.Catalog.Loaded
import Fixture.Proofs.Construction.Origin

/-!
# Parameters during a construction

The parameters of a composite are replaced before the shape of a type is told, and only arguments
without parameters are handed on. So a parameter is never met where a type is due, whatever stands
in the catalogue. It can be met where nothing was given for it, in a composite entered without
arguments; and where a composite comes from a document, the parameter is one of its own.
-/

namespace Fixture

theorem Catalog.follows_lax (catalog : Catalog) : catalog.Follows .lax := by
  intro definition _
  cases definition with
  | composite owner => exact fun property _ => property.ty.follows_lax
  | enumeration => trivial

namespace Plan

variable {plan : Plan} {owner : Composite} {args : List Ty} {param : String}

theorem args_of_mayEnter {path : List String} (h : mayEnter owner args path = .ok ()) :
    args = [] ∨ args.length = owner.params.length := by
  unfold mayEnter at h
  split at h
  · cases h
  · next hargs =>
    by_cases hnil : args = []
    · exact .inl hnil
    · right
      simpa [hnil] using hargs

theorem args_eq_nil {path : List String} (henter : mayEnter owner args path = .ok ())
    (hparam : param ∈ owner.params)
    (hnone : (owner.positionOf? param).bind (args[·]?) = none) : args = [] := by
  rcases args_of_mayEnter henter with hnil | hlength
  · exact hnil
  · obtain ⟨position, hposition⟩ := Option.isSome_iff_exists.1 (List.isSome_idxOf?.2 hparam)
    have hbelow : position < args.length := by
      obtain ⟨hbelow, -⟩ := List.idxOf?_eq_some_iff.1 hposition
      omega
    rw [Composite.positionOf?, hposition, Option.bind_some,
      List.getElem?_eq_getElem hbelow] at hnone
    cases hnone

end Plan

/-- No parameter stands in the arguments of a value, nor in the type of a property once it is
told. -/
def Job.ParamFree (plan : Plan) : Job → Prop
  | literal _ => True
  | value _ args => ∀ arg ∈ args, arg.ParamFree
  | property site due =>
    ∀ ty, plan.propertyType site.owner site.args due = .ok ty → ty.ParamFree
  | properties site _ => ∀ arg ∈ site.args, arg.ParamFree

theorem Job.Follows.paramFree {plan : Plan} {job : Job} {rules : Ty.Rules}
    (h : job.Follows rules) : job.ParamFree plan := by
  cases job with
  | literal => trivial
  | value raw args => exact fun arg harg => (h arg harg).paramFree
  | property site property =>
    intro ty hty
    exact (Plan.propertyType_follows h.2 h.1 hty).paramFree
  | properties site rest => exact fun arg harg => (h.1 arg harg).paramFree

theorem Part.unfit_of_ofParam {plan : Plan} {part : Part plan} {obstacle : Obstacle}
    (h : part.course.obstacle? = some obstacle) (hparam : obstacle.ofParam = true) :
    ∃ site property outer, part.job = .property site property ∧ part.sites = site :: outer ∧
      part.result = .error { obstacle, trail := [⟨site.owner.name, property.name⟩] } ∧
      plan.writerAndShape site.owner site.args property = .error obstacle := by
  obtain ⟨sites, job, before, result, after, course⟩ := part
  cases course with
  | literal name result hdraw =>
    cases result with
    | ok text => cases h
    | error other =>
      obtain rfl : other = obstacle := Option.some.inj h
      rw [Obstacle.ofParam_of_ofName (Plan.ofName_of_draw hdraw)] at hparam
      cases hparam
  | barred raw args target other hissue hsimple henter =>
    obtain rfl : other = obstacle := Option.some.inj h
    rw [Plan.ofParam_of_enter henter] at hparam
    cases hparam
  | tooDeep =>
    cases h
    cases hparam
  | unfit site property other hdue hshape =>
    obtain rfl : other = obstacle := Option.some.inj h
    exact ⟨site, property, _, rfl, rfl, rfl, hshape⟩
  | _ => cases h

namespace Making

variable {catalog : Catalog} {registry : Registry} {settings : Settings} {supply : Supply}
  {root : String} (making : Making catalog registry settings supply root)
  {part : Part making.plan}

theorem paramFree (hpart : making.whole.Within part) : part.job.ParamFree making.plan :=
  (making.follows catalog.follows_lax hpart).paramFree

theorem exists_untold {failure : Failure} (hresult : making.whole.result = .error failure)
    (hparam : failure.obstacle.ofParam = true) :
    ∃ part site property, making.whole.Within part ∧ part.job = .property site property ∧
      part.result = .error ⟨failure.obstacle, [⟨site.owner.name, property.name⟩]⟩ ∧
      site ∈ part.sites ∧ property ∈ site.owner.properties ∧
      making.plan.propertyType site.owner site.args property = .error failure.obstacle := by
  obtain ⟨part, hpart, hobstacle⟩ := making.course.exists_origin hresult
  obtain ⟨site, property, outer, hjob, hsites, hfailed, hshape⟩ :=
    part.unfit_of_ofParam hobstacle hparam
  have hsite : site ∈ part.sites := hsites ▸ List.mem_cons_self ..
  refine ⟨part, site, property, hpart, hjob, hfailed, hsite, ?_, ?_⟩
  · have hlocated := making.located hpart
    rw [hjob] at hlocated
    exact hlocated.1
  · rcases Plan.writerAndShape_error hshape with hwriter | hty | ⟨ty, hty, hofTy⟩
    · rw [hwriter] at hparam
      cases hparam
    · exact hty
    · have hfree := making.paramFree hpart
      rw [hjob] at hfree
      rw [Shape.ofParam_of_ofTy (hfree ty hty) hofTy] at hparam
      cases hparam

/-- A property of a composite fails for want of an argument. The parameter is one of its own, and
the composite was entered without any arguments. -/
structure Lacks (making : Making catalog registry settings supply root) (site : Site)
    (property : Property) (param : String) : Prop where
  failed : ∃ part, making.whole.Within part ∧ part.job = .property site property ∧
    part.result = .error ⟨.unresolvableParam site.owner.qualifiedName param,
      [⟨site.owner.name, property.name⟩]⟩
  declared : param ∈ site.owner.params
  entered : ∃ maker raw, making.whole.Within maker ∧ maker.course.site? = some site ∧
    maker.job = .value raw []

theorem exists_lacks (hcatalog : catalog.Loaded) {owner param : String} {trail : List Frame}
    (hresult : making.whole.result = .error ⟨.unresolvableParam owner param, trail⟩) :
    ∃ site, ∃ property ∈ site.owner.properties,
      making.Lacks site property param ∧ site.owner.qualifiedName = owner := by
  obtain ⟨part, site, property, hpart, hjob, hfailed, hsite, hproperty, hty⟩ :=
    making.exists_untold hresult rfl
  have hdeclares : property.ty.Built (fun _ => True) (· ∈ site.owner.params) :=
    hcatalog.declares _ (making.mem_of_mem_sites hpart hsite) property hproperty
  obtain ⟨lacking, hparam, heq, hnone⟩ := Plan.propertyType_error hdeclares hty
  obtain ⟨rfl, rfl⟩ := Obstacle.unresolvableParam.inj heq
  obtain ⟨maker, raw, hmaker, hnew, hentered, henter⟩ := making.exists_entry hpart hsite
  have hargs : site.args = [] := Plan.args_eq_nil (Plan.enter_ok henter).2 hparam hnone
  rw [hargs] at hentered
  refine ⟨site, property, hproperty, ⟨⟨part, hpart, hjob, hfailed⟩, hparam, ?_⟩, rfl⟩
  exact ⟨maker, raw, hmaker, hnew, hentered⟩

end Making

theorem exists_making_of_ofParam {catalog : Catalog} {registry : Registry} {settings : Settings}
    {supply : Supply} {root : String} {failure : Failure} (hparam : failure.obstacle.ofParam = true)
    (hresult : (catalog.fixture registry settings supply root).result = .error failure) :
    ∃ making : Making catalog registry settings supply root,
      making.whole.result = .error failure := by
  cases hscope : effectiveScope catalog settings root with
  | error obstacle =>
    rw [fixture_of_no_scope catalog registry settings supply root hscope] at hresult
    cases hresult
    rw [Obstacle.ofParam_of_ofName (ofName_of_effectiveScope hscope)] at hparam
    cases hparam
  | ok scope =>
    obtain ⟨making, -⟩ := exists_making catalog registry settings supply root hscope
    exact ⟨making, making.result_whole.trans hresult⟩

/-- In a fixture, no parameter stands in the arguments that a value is constructed with, nor in a
type whose shape is told; so no fixture fails because of a parameter where a type was due. If the
catalogue was read, a fixture fails because a parameter got no argument only where its owner
declares it and was entered without any arguments. -/
theorem fixture_bound (catalog : Catalog) (registry : Registry) (settings : Settings)
    (supply : Supply) (root : String) :
    let outcome := catalog.fixture registry settings supply root
    (∀ scope, effectiveScope catalog settings root = .ok scope →
        Nonempty (Making catalog registry settings supply root)) ∧
      (∀ making : Making catalog registry settings supply root,
        ∀ part, making.whole.Within part → part.job.ParamFree making.plan) ∧
      (∀ param trail, outcome.result ≠ .error ⟨.malformedGeneric (.unboundParam param), trail⟩) ∧
      (catalog.Loaded → ∀ owner param trail,
        outcome.result = .error ⟨.unresolvableParam owner param, trail⟩ →
          ∃ (making : Making catalog registry settings supply root) (site : Site),
            ∃ property ∈ site.owner.properties,
              making.Lacks site property param ∧ site.owner.qualifiedName = owner) := by
  intro outcome
  refine ⟨?_, ?_, ?_, ?_⟩
  · intro scope hscope
    obtain ⟨making, -⟩ := exists_making catalog registry settings supply root hscope
    exact ⟨making⟩
  · intro making part hpart
    exact making.paramFree hpart
  · intro param trail hresult
    obtain ⟨making, hwhole⟩ := exists_making_of_ofParam rfl hresult
    obtain ⟨part, site, property, -, -, -, -, -, hty⟩ := making.exists_untold hwhole rfl
    obtain ⟨lacking, -, heq, -⟩ := Plan.propertyType_error property.ty.built_names hty
    cases heq
  · intro hcatalog owner param trail hresult
    obtain ⟨making, hwhole⟩ := exists_making_of_ofParam rfl hresult
    exact ⟨making, making.exists_lacks hcatalog hwhole⟩

/-- A shelf with a box of which it is not said what is in it. -/
def rawBoxText : String :=
  "\x7b\"types\":[\x7b\"name\":\"Shelf\",\"module\":\"pl\"," ++
    "\"properties\":[\x7b\"name\":\"box\",\"type\":\"Box\"\x7d]\x7d," ++
    "\x7b\"name\":\"Box\",\"module\":\"pl\",\"params\":[\"T\"]," ++
    "\"properties\":[\x7b\"name\":\"content\",\"type\":\"T\"\x7d]\x7d]\x7d"

theorem fixture_bound_rawBox :
    ∃ catalog, Catalog.ofJson rawBoxText.toUTF8.toList = .ok catalog ∧
      (catalog.fixture .builtin {} (.seeded 0) "pl.Shelf").result =
        .error ⟨.unresolvableParam "pl.Box" "T", [⟨"Shelf", "box"⟩, ⟨"Box", "content"⟩]⟩ ∧
      ∃ (making : Making catalog .builtin {} (.seeded 0) "pl.Shelf") (site : Site),
        ∃ property ∈ site.owner.properties,
          making.Lacks site property "T" ∧ site.owner.qualifiedName = "pl.Box" := by
  have hread : (match Catalog.ofJson rawBoxText.toUTF8.toList with
      | .ok catalog =>
        decide ((catalog.fixture .builtin {} (.seeded 0) "pl.Shelf").result =
          .error ⟨.unresolvableParam "pl.Box" "T", [⟨"Shelf", "box"⟩, ⟨"Box", "content"⟩]⟩)
      | .error _ => false) = true := by decide +kernel
  split at hread
  · next catalog hcatalog =>
    have hresult := of_decide_eq_true hread
    obtain ⟨-, -, -, hlacks⟩ := fixture_bound catalog .builtin {} (.seeded 0) "pl.Shelf"
    exact ⟨catalog, hcatalog, hresult, hlacks (.ofJson hcatalog) "pl.Box" "T" _ hresult⟩
  · cases hread

end Fixture

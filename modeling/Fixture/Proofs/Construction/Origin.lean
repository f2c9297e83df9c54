import Fixture.Proofs.Construction.Expansion
import Fixture.Proofs.Obstacle

/-!
# Where a failure comes from

A failure begins at one job, which met an obstacle that none of the jobs inside it had met, and goes
on from there to the whole. A cycle can only begin where a composite is to be entered.
-/

namespace Fixture

namespace Course

variable {plan : Plan} {sites : List Site} {job : Job} {before after : Stock}
  {result : Except Failure String}

/-- The obstacle that a job meets itself, before or without a job inside it. -/
def obstacle? {sites : List Site} {job : Job} {before after : Stock}
    {result : Except Failure String} :
    Course plan sites job before result after → Option Obstacle
  | .literal _ (.error obstacle) _ => some obstacle
  | .barred _ _ _ obstacle _ _ _ => some obstacle
  | .tooDeep .. => some (.tooDeep plan.settings.maxDepth)
  | .unfit _ _ obstacle _ _ => some obstacle
  | _ => none

theorem error_of_closing {site : Site} {property : Property} {failure : Failure}
    (h : site.closing property result = .error failure) :
    ∃ inside, result = .error inside ∧ inside.obstacle = failure.obstacle := by
  cases result with
  | ok value => cases h
  | error inside =>
    cases h
    exact ⟨inside, rfl, rfl⟩

variable (course : Course plan sites job before result after)

theorem obstacle_or_inner {failure : Failure} (hresult : result = .error failure) :
    course.obstacle? = some failure.obstacle ∨ ∃ child ∈ course.inner, ∃ inside,
      child.result = .error inside ∧ inside.obstacle = failure.obstacle := by
  cases course with
  | literal name result hdraw =>
    cases result with
    | ok text => cases hresult
    | error obstacle =>
      cases hresult
      exact .inl rfl
  | simple raw args target result hissue hsimple drawn =>
    exact .inr ⟨_, List.mem_singleton_self _, failure, map_eq_error hresult, rfl⟩
  | barred | tooDeep | unfit =>
    cases hresult
    exact .inl rfl
  | composite raw args target owner result hissue hsimple henter hdepth inside =>
    exact .inr ⟨_, List.mem_singleton_self _, failure, hresult, rfl⟩
  | ignored | done => cases hresult
  | plain | nested | collection =>
    exact .inr ⟨_, List.mem_singleton_self _, error_of_closing hresult⟩
  | next site property rest result first others =>
    exact .inr ⟨others.part, by simp [inner], failure, hresult, rfl⟩
  | stop site property rest failure first =>
    have hfailure := congrArg Failure.obstacle (Except.error.inj hresult)
    exact .inr ⟨_, List.mem_singleton_self _, failure, rfl, hfailure⟩

/-- Every failure has an origin: a part that met the obstacle itself. -/
theorem exists_origin {failure : Failure} (hresult : result = .error failure) :
    ∃ part, course.part.Within part ∧ part.course.obstacle? = some failure.obstacle := by
  suffices ∀ (part : Part plan) (failure : Failure), part.result = .error failure →
      ∃ child, part.Within child ∧ child.course.obstacle? = some failure.obstacle from
    this course.part failure hresult
  refine Part.induction fun part ih failure hresult => ?_
  rcases part.course.obstacle_or_inner hresult with hown | ⟨child, hchild, inside, hinside, heq⟩
  · exact ⟨part, .self, hown⟩
  · obtain ⟨origin, horigin, hobstacle⟩ := ih child hchild inside hinside
    exact ⟨origin, .trans (.inner .self hchild) horigin, heq ▸ hobstacle⟩

end Course

/-- A composite is to be entered. -/
def Part.Enters {plan : Plan} (part : Part plan) (entered : Binding) : Prop :=
  ∃ raw args, part.job = .value raw args ∧ plan.Opens raw args entered

theorem Part.cycle_of_obstacle {plan : Plan} {part : Part plan} {key : String}
    (h : part.course.obstacle? = some (.cycle key)) :
    part.result = .error { obstacle := .cycle key } ∧ ∃ entered, part.Enters entered ∧
      Plan.key entered.owner entered.args = key ∧ ∃ site ∈ part.sites, site.key = key := by
  obtain ⟨sites, job, before, result, after, course⟩ := part
  cases course with
  | literal name result hdraw =>
    cases result with
    | ok text => cases h
    | error obstacle =>
      obtain rfl : obstacle = .cycle key := Option.some.inj h
      cases Plan.ofName_of_draw hdraw
  | barred raw args target obstacle hissue hsimple henter =>
    obtain rfl : obstacle = .cycle key := Option.some.inj h
    rcases Plan.ofType_or_cycle henter with htype | ⟨owner, howner, heq, hopen⟩
    · cases htype
    · obtain rfl : key = Plan.key owner args := Obstacle.cycle.inj heq
      exact ⟨rfl, ⟨owner, args⟩, ⟨raw, args, rfl, hsimple, howner, rfl⟩, rfl, List.mem_map.1 hopen⟩
  | unfit site property obstacle hdue hshape =>
    obtain rfl : obstacle = .cycle key := Option.some.inj h
    cases Plan.onPath_of_writerAndShape hshape
  | _ => cases h

end Fixture

import Fixture.Proofs.Construction.Nesting

/-!
# The trail of a failure

While a failure is told further out, one stage after the other puts its frame in front of the trail.
The path keeps all of these stages, for nothing is taken off it any more. So in the end the trail
and the path are two views of the same stages: the way from the root to where the failure was met.
-/

namespace Fixture

open StateTransition

namespace Walk

/-- A property of the root is about to get its value. -/
def AtRootProperty (walk : Walk) : Prop :=
  ∃ site property rest, walk.task = .properties site (property :: rest) ∧ walk.pending = []

/-- The root has been entered: something is on the path unless the root is finished. -/
def Opened (walk : Walk) : Prop :=
  walk.path ≠ [] ∨ walk.pending = [] ∧ ∃ name, walk.task = .given name

theorem Opened.ne_nil {walk : Walk} (h : walk.Opened)
    (hgoing : walk.pending ≠ [] ∨ ∀ name, walk.task ≠ .given name) : walk.path ≠ [] := by
  rcases h with hpath | ⟨hpending, name, hgiven⟩
  · exact hpath
  · exact (hgoing.resolve_left (absurd hpending) name hgiven).elim

end Walk

namespace Plan

variable {plan : Plan} {root : String} {walk next last : Walk}

/-! ### The path from step to step -/

theorem takeValue_cases (plan : Plan) (walk : Walk) (raw : String) (args : List Ty) :
    let next := plan.takeValue walk raw args
    next.pending = walk.pending ∧
      ((next.path = walk.path ∧ ∃ result : Except Obstacle String,
          next.task = .ofResult (result.mapError fun obstacle => { obstacle })) ∨
        ∃ site, next.path = site.key :: walk.path ∧
          next.task = .properties site (inOrder site.owner)) := by
  rw [takeValue]
  rcases walk.ledger.issue (variableBase raw) with ⟨target, ledger⟩
  dsimp only
  split
  · split
    · next obstacle _ => exact ⟨rfl, .inl ⟨rfl, .error obstacle, rfl⟩⟩
    · exact ⟨rfl, .inl ⟨rfl, .ok target, rfl⟩⟩
  · split
    · next obstacle _ => exact ⟨rfl, .inl ⟨rfl, .error obstacle, rfl⟩⟩
    · next owner _ =>
      split
      · exact ⟨rfl, .inl ⟨rfl, .error (.tooDeep _), rfl⟩⟩
      · exact ⟨rfl, .inr ⟨⟨target, owner, args⟩, rfl, rfl⟩⟩

theorem path_takeShape (walk : Walk) (site : Site) (property : Property) (rest : List Property)
    (writer : String) (shape : Shape) :
    (plan.takeShape walk site property rest writer shape).path = walk.path := by
  cases shape with
  | simple name =>
    rw [takeShape]
    split
    · rfl
    · split <;> rfl
  | collection kind element =>
    rw [takeShape]
    rcases walk.ledger.issue property.name with ⟨collection, ledger⟩
    dsimp only
    split
    · split <;> rfl
    · rfl
  | composite raw args => rfl

theorem path_takeProperty (walk : Walk) (site : Site) (property : Property) (rest : List Property) :
    (plan.takeProperty walk site property rest).path = walk.path := by
  rw [takeProperty]
  split
  · rfl
  · split
    · rfl
    · exact path_takeShape ..

theorem opened_step (hsound : plan.Sound root walk) (h : walk.Opened)
    (hstep : plan.step walk = some next) : next.Opened := by
  unfold step at hstep
  split at hstep
  · next raw args htask =>
    cases hstep
    obtain ⟨-, ⟨hsame, -⟩ | ⟨site, hmore, -⟩⟩ := plan.takeValue_cases walk raw args
    · exact .inl (hsame ▸ h.ne_nil (.inr (by simp [htask])))
    · exact .inl (hmore ▸ List.cons_ne_nil _ _)
  · next site htask =>
    cases hstep
    obtain ⟨hpath, -, -⟩ := hsound.of_properties htask
    cases hpending : walk.pending with
    | nil => exact .inr ⟨rfl, _, rfl⟩
    | cons pending outer => exact .inl (by simp [hpath, Walk.stages, hpending])
  · next site property rest htask =>
    cases hstep
    exact .inl (path_takeProperty walk site property rest ▸ h.ne_nil (.inr (by simp [htask])))
  · next hpending =>
    cases hstep
    exact .inl (h.ne_nil (.inl (by simp [hpending])))
  · next hpending =>
    cases hstep
    exact .inl (h.ne_nil (.inl (by simp [hpending])))
  · cases hstep
  · cases hstep

theorem opened_of_reaches (hwalk : Reaches plan.step (.start root) walk) (h : walk.Opened)
    (hlast : Reaches plan.step walk last) : last.Opened := by
  induction hlast with
  | refl => exact h
  | tail hmiddle hstep ih => exact opened_step (sound_of_reaches (hwalk.trans hmiddle)) ih hstep

theorem step_of_failed {failure : Failure} (htask : walk.task = .failed failure)
    (hstep : plan.step walk = some next) :
    (∃ outer, next.task = .failed outer) ∧ next.path = walk.path ∧ next.outline = walk.outline := by
  cases hpending : walk.pending with
  | nil => simp [step, htask, hpending] at hstep
  | cons pending rest =>
    simp only [step, htask, hpending, Option.some.injEq] at hstep
    subst hstep
    exact ⟨⟨_, rfl⟩, rfl, List.append_nil _⟩

theorem failed_of_reaches {failure : Failure} (htask : walk.task = .failed failure)
    (h : Reaches plan.step walk last) :
    last.path = walk.path ∧ ∃ outer, last.task = .failed outer := by
  induction h with
  | refl => exact ⟨rfl, failure, htask⟩
  | tail _ hstep ih =>
    obtain ⟨hpath, outer, houter⟩ := ih
    obtain ⟨hfailed, hsame, -⟩ := step_of_failed houter hstep
    exact ⟨hsame.trans hpath, hfailed⟩

/-! ### The end of a walk -/

theorem reaches_last (hlast : last ∈ eval plan.step (.start root))
    (hwalk : Reaches plan.step (.start root) walk) : Reaches plan.step walk last := by
  rw [reaches_eval hwalk] at hlast
  exact (mem_eval.1 hlast).1

theorem eq_last {result : Except Failure String} (hlast : last ∈ eval plan.step (.start root))
    (hwalk : Reaches plan.step (.start root) walk) (htask : walk.task = .ofResult result)
    (hpending : walk.pending = []) : walk = last :=
  Part.mem_unique (mem_eval.2 ⟨hwalk, step_ofResult htask hpending⟩) hlast

theorem exists_atRootProperty {failure : Failure} (hlast : last ∈ eval plan.step (.start root))
    (hfailed : last.task = .failed failure) (hpath : last.path ≠ []) :
    ∃ walk, Reaches plan.step (.start root) walk ∧ walk.AtRootProperty := by
  let first := plan.takeValue (.start root) root []
  have hfirst : Reaches plan.step (.start root) first := .single rfl
  obtain ⟨hpending, ⟨hempty, result, htask⟩ | ⟨site, -, htask⟩⟩ :=
    plan.takeValue_cases (.start root) root []
  · obtain rfl : first = last := eq_last hlast hfirst htask hpending
    exact absurd hempty hpath
  · cases hproperties : inOrder site.owner with
    | nil =>
      rw [hproperties] at htask
      have hstep : plan.step first =
          some { first with task := .given site.target, path := first.path.tail } := by
        simp only [step, first, htask]
      have hgiven : Task.given site.target = .ofResult (.ok site.target) := rfl
      obtain rfl := eq_last hlast (hfirst.tail hstep) hgiven hpending
      cases hfailed
    | cons property rest =>
      rw [hproperties] at htask
      exact ⟨first, hfirst, site, property, rest, htask, hpending⟩

end Plan

variable {catalog : Catalog} {registry : Registry} {settings : Settings} {supply : Supply}
  {root : String} {failure : Failure}

/-- The trail of a failure is the way from the root to where the failure was met: the stages whose
composites are on the path, with the root's in front. It is empty if that was before the first
property of the root; and what the obstacle says of the way is so. -/
theorem fixture_trail (hresult :
      (catalog.fixture registry settings supply root).result = .error failure) :
    (effectiveScope catalog settings root = .error failure.obstacle ∧ failure.trail = [] ∧
        failure.obstacle.Befits []) ∨
      ∃ scope, effectiveScope catalog settings root = .ok scope ∧
        let plan : Plan := ⟨catalog, registry, settings, scope⟩
        ∃ last ∈ eval plan.step (.start root),
          last.Accounts catalog registry settings root (.error failure) ∧
          (∃ stages, plan.Linked root stages ∧ last.path = stages.map Stage.key ∧
            failure.trail = (stages.map Stage.frame).reverse ∧ failure.obstacle.Befits stages) ∧
          (∀ walk inner, Reaches plan.step (.start root) walk → walk.task = .failed inner →
            walk.path = last.path) ∧
          (failure.trail = [] ↔
            ¬ ∃ walk, Reaches plan.step (.start root) walk ∧ walk.AtRootProperty) := by
  cases hscope : effectiveScope catalog settings root with
  | error obstacle =>
    rw [fixture_of_no_scope catalog registry settings supply root hscope] at hresult
    cases hresult
    exact .inl ⟨rfl, rfl, Obstacle.befits_of_ofType (ofType_of_effectiveScope hscope) _⟩
  | ok scope =>
    obtain ⟨last, result, hlast, haccounts⟩ := exists_walk registry hscope
    rw [haccounts.fixture_eq] at hresult
    obtain rfl : result = .error failure := hresult
    have hreach := (mem_eval.1 hlast).1
    have htask : last.task = .failed failure := haccounts.task
    obtain ⟨inner, hpath, hlinked, htrail, hbefits⟩ :=
      (Plan.sound_of_reaches hreach).of_failed htask
    rw [Walk.stages, haccounts.pending, List.map_nil, List.append_nil] at hpath hlinked hbefits
    have hempty : failure.trail = [] ↔ last.path = [] := by
      rw [htrail, hpath, List.reverse_eq_nil_iff, List.map_eq_nil_iff, List.map_eq_nil_iff]
    refine .inr ⟨scope, rfl, last, hlast, haccounts, ⟨inner, hlinked, hpath, htrail, hbefits⟩,
      fun walk inner hwalk hinner => ?_, ?_⟩
    · exact (Plan.failed_of_reaches hinner (Plan.reaches_last hlast hwalk)).1.symm
    · rw [hempty]
      refine ⟨?_, fun hnone => ?_⟩
      · rintro hclosed ⟨walk, hwalk, site, property, rest, hproperties, -⟩
        have hopen : walk.path ≠ [] := by
          rw [((Plan.sound_of_reaches hwalk).of_properties hproperties).1]
          exact List.cons_ne_nil _ _
        rcases Plan.opened_of_reaches hwalk (.inl hopen) (Plan.reaches_last hlast hwalk) with
          hopened | ⟨-, name, hgiven⟩
        · exact hopened hclosed
        · cases htask.symm.trans hgiven
      · by_contra hopen
        exact hnone (Plan.exists_atRootProperty hlast htask hopen)

/-- A shelf with boxes whose label can only be read. -/
def labelled : Catalog where
  definitions := [
    .composite ⟨"Shelf", "pl", [],
      [⟨"boxes", .applied "List" [.named "Box"], none, some "setBoxes"⟩]⟩,
    .composite ⟨"Box", "pl", [], [⟨"label", .named "String", some "getLabel", none⟩]⟩]

theorem labelled_result : (labelled.fixture .builtin {} (.seeded 0) "pl.Shelf").result =
    .error ⟨.missingWriter "pl.Box" "label", [⟨"Shelf", "boxes"⟩, ⟨"Box", "label"⟩]⟩ := by
  decide +kernel

theorem fixture_trail_labelled :
    ∃ last ∈ eval (Plan.step ⟨labelled, .builtin, {}, "pl"⟩) (.start "pl.Shelf"),
      ∃ stages, Plan.Linked ⟨labelled, .builtin, {}, "pl"⟩ "pl.Shelf" stages ∧
        last.path = stages.map Stage.key ∧
        stages.map Stage.frame = [⟨"Box", "label"⟩, ⟨"Shelf", "boxes"⟩] ∧
        (Obstacle.missingWriter "pl.Box" "label").Befits stages := by
  have hscope : effectiveScope labelled {} "pl.Shelf" = .ok "pl" := rfl
  rcases fixture_trail labelled_result with ⟨hnone, -⟩ |
    ⟨scope, hsome, last, hlast, -, ⟨stages, hlinked, hpath, htrail, hbefits⟩, -⟩
  · cases hscope.symm.trans hnone
  · obtain rfl : "pl" = scope := Except.ok.inj (hscope.symm.trans hsome)
    exact ⟨last, hlast, stages, hlinked, hpath, (List.reverse_eq_iff.1 htrail.symm), hbefits⟩

end Fixture

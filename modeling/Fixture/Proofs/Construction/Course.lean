import Fixture.Outcome
import Fixture.Proofs.Construction.Steps

/-!
# The course of a construction

A construction leaves nothing behind but events, names and a supply. Its course keeps what happened:
which jobs were taken up, which composites were open, what each decision was, and how each job
ended. A course can only be built along the decisions that a construction takes, and
`constructs_construct` says that every construction has one, with the same result, the same events,
and the same names and supply in the end. All that is proved of the events of one construction is
proved by induction on courses; only where two constructions are compared is the construction itself
looked at.
-/

namespace Fixture

/-- A composite that is being constructed: the variable that holds it, and the arguments in place of
its parameters. -/
structure Site where
  target : String
  owner : Composite
  args : List Ty

namespace Site

def key (self : Site) : String := Plan.key self.owner self.args

/-- How a property of the site ends when its value has ended: a failure gets the property as its
outermost frame. -/
def closing (self : Site) (property : Property) (result : Except Failure String) :
    Except Failure String :=
  match result with
  | .ok _ => .ok self.target
  | .error failure => .error (failure.seenFrom self.owner.name property.name)

end Site

/-- What a construction uses up as it goes on: values, and names of variables. -/
structure Stock where
  supply : Supply
  ledger : Ledger := {}

/-- What there is to do in a construction. -/
inductive Job where
  /-- A literal of a simple type. -/
  | literal (name : String)
  /-- A variable with a value of a type. -/
  | value (raw : String) (args : List Ty)
  /-- A value for one property of a composite. -/
  | property (site : Site) (property : Property)
  /-- Values for several properties of a composite, one after the other. -/
  | properties (site : Site) (rest : List Property)

namespace Plan

variable (plan : Plan)

/-- The element of a collection is a literal if its raw type is simple; otherwise it is the value of
a variable, without arguments. -/
def elementJob (element : Ty) : Job :=
  if plan.isSimple element.rawName then .literal element.rawName else .value element.rawName []

end Plan

/-- A property of a shape gets its value through a variable of its own, made for a raw type and
arguments. -/
inductive Shape.ThroughVariable (property : Property) : Shape → String → List Ty → Prop
  | composite (raw : String) (args : List Ty) :
      ThroughVariable property (.composite raw args) raw args
  | simple (name : String) (hparam : Plan.declaresParam property = true) :
      ThroughVariable property (.simple name) name []

/-- How a job went while some composites were open, the innermost first: from which stock, to which
result, leaving which stock. A composite gets its properties while it is the innermost. -/
inductive Course (plan : Plan) :
    List Site → Job → Stock → Except Failure String → Stock → Type
  | literal (name : String) (result : Except Obstacle String)
      {sites : List Site} {before : Stock} {supply : Supply}
      (hdraw : plan.draw name before.supply = (result, supply)) :
      Course plan sites (.literal name) before
        (result.mapError fun obstacle => { obstacle }) ⟨supply, before.ledger⟩
  | simple (raw : String) (args : List Ty) (target : String) (result : Except Failure String)
      {sites : List Site} {before after : Stock} {ledger : Ledger}
      (hissue : before.ledger.issue (Plan.variableBase raw) = (target, ledger))
      (hsimple : plan.isSimple raw = true)
      (drawn : Course plan sites (.literal raw) ⟨before.supply, ledger⟩ result after) :
      Course plan sites (.value raw args) before (result.map fun _ => target) after
  | barred (raw : String) (args : List Ty) (target : String) (obstacle : Obstacle)
      {sites : List Site} {before : Stock} {ledger : Ledger}
      (hissue : before.ledger.issue (Plan.variableBase raw) = (target, ledger))
      (hsimple : plan.isSimple raw = false)
      (henter : plan.enter raw args (sites.map Site.key) = .error obstacle) :
      Course plan sites (.value raw args) before (.error { obstacle }) ⟨before.supply, ledger⟩
  | tooDeep (raw : String) (args : List Ty) (target : String) (owner : Composite)
      {sites : List Site} {before : Stock} {ledger : Ledger}
      (hissue : before.ledger.issue (Plan.variableBase raw) = (target, ledger))
      (hsimple : plan.isSimple raw = false)
      (henter : plan.enter raw args (sites.map Site.key) = .ok owner)
      (hdepth : plan.settings.maxDepth ≤ sites.length) :
      Course plan sites (.value raw args) before
        (.error { obstacle := .tooDeep plan.settings.maxDepth }) ⟨before.supply, ledger⟩
  | composite (raw : String) (args : List Ty) (target : String) (owner : Composite)
      (result : Except Failure String)
      {sites : List Site} {before after : Stock} {ledger : Ledger}
      (hissue : before.ledger.issue (Plan.variableBase raw) = (target, ledger))
      (hsimple : plan.isSimple raw = false)
      (henter : plan.enter raw args (sites.map Site.key) = .ok owner)
      (hdepth : sites.length < plan.settings.maxDepth)
      (inside : Course plan (⟨target, owner, args⟩ :: sites)
        (.properties ⟨target, owner, args⟩ (Plan.inOrder owner)) ⟨before.supply, ledger⟩
        result after) :
      Course plan sites (.value raw args) before result after
  | ignored (site : Site) (property : Property) {outer : List Site} {before : Stock}
      (hignored : plan.settings.ignores property.name = true) :
      Course plan (site :: outer) (.property site property) before (.ok site.target) before
  | unfit (site : Site) (property : Property) (obstacle : Obstacle)
      {outer : List Site} {before : Stock}
      (hdue : plan.settings.ignores property.name = false)
      (hshape : plan.writerAndShape site.owner site.args property = .error obstacle) :
      Course plan (site :: outer) (.property site property) before
        (site.closing property (.error { obstacle })) before
  | plain (site : Site) (property : Property) (writer name : String)
      (result : Except Failure String) {outer : List Site} {before after : Stock}
      (hdue : plan.settings.ignores property.name = false)
      (hshape : plan.writerAndShape site.owner site.args property = .ok (writer, .simple name))
      (hparam : Plan.declaresParam property = false)
      (drawn : Course plan (site :: outer) (.literal name) before result after) :
      Course plan (site :: outer) (.property site property) before
        (site.closing property result) after
  | nested (site : Site) (property : Property) (writer : String) (shape : Shape) (raw : String)
      (args : List Ty) (result : Except Failure String) {outer : List Site} {before after : Stock}
      (hdue : plan.settings.ignores property.name = false)
      (hshape : plan.writerAndShape site.owner site.args property = .ok (writer, shape))
      (hthrough : shape.ThroughVariable property raw args)
      (value : Course plan (site :: outer) (.value raw args) before result after) :
      Course plan (site :: outer) (.property site property) before
        (site.closing property result) after
  | collection (site : Site) (property : Property) (writer : String) (kind : CollectionKind)
      (element : Ty) (name : String) (result : Except Failure String)
      {outer : List Site} {before after : Stock} {ledger : Ledger}
      (hdue : plan.settings.ignores property.name = false)
      (hshape : plan.writerAndShape site.owner site.args property =
        .ok (writer, .collection kind element))
      (hissue : before.ledger.issue property.name = (name, ledger))
      (inside : Course plan (site :: outer) (plan.elementJob element) ⟨before.supply, ledger⟩
        result after) :
      Course plan (site :: outer) (.property site property) before
        (site.closing property result) after
  | done (site : Site) {outer : List Site} {before : Stock} :
      Course plan (site :: outer) (.properties site []) before (.ok site.target) before
  | next (site : Site) (property : Property) (rest : List Property) (result : Except Failure String)
      {outer : List Site} {before middle after : Stock}
      (first : Course plan (site :: outer) (.property site property) before (.ok site.target)
        middle)
      (others : Course plan (site :: outer) (.properties site rest) middle result after) :
      Course plan (site :: outer) (.properties site (property :: rest)) before result after
  | stop (site : Site) (property : Property) (rest : List Property) (failure : Failure)
      {outer : List Site} {before after : Stock}
      (first : Course plan (site :: outer) (.property site property) before (.error failure)
        after) :
      Course plan (site :: outer) (.properties site (property :: rest)) before (.error failure)
        after

/-- What comes of a value; nothing comes of a failure. -/
def followUp {α : Type} (result : Except Failure String) (next : String → List α) : List α :=
  match result with
  | .ok value => next value
  | .error _ => []

@[simp] theorem followUp_nil {α : Type} (result : Except Failure String) :
    followUp result (fun _ => ([] : List α)) = [] := by
  cases result <;> rfl

theorem filterMap_followUp {α β : Type} (f : α → Option β) (result : Except Failure String)
    (next : String → List α) :
    (followUp result next).filterMap f = followUp result fun value => (next value).filterMap f := by
  cases result <;> rfl

namespace Course

variable {plan : Plan} {sites : List Site} {job : Job} {before after : Stock}
  {result : Except Failure String}

def events {sites : List Site} {job : Job} {before after : Stock}
    {result : Except Failure String} : Course plan sites job before result after → List Event
  | .literal .. => []
  | .simple raw _ target result _ _ _ =>
    followUp result fun text => [.declare (Name.simple raw) target text]
  | .barred .. => []
  | .tooDeep .. => []
  | .composite raw args target _ _ _ _ _ _ inside =>
    Plan.declaration raw args target :: inside.events
  | .ignored .. => []
  | .unfit .. => []
  | .plain site _ writer _ result _ _ _ _ =>
    followUp result fun text => [.call site.target writer text]
  | .nested site _ writer _ _ _ result _ _ _ value =>
    value.events ++ followUp result fun name => [.blank, .call site.target writer name, .blank]
  | .collection site _ writer kind element name result _ _ _ inside =>
    [.blank, Plan.collectionEvent kind (Name.simple element.rawName) name] ++ inside.events ++
      followUp result fun value =>
        [.append name value, .call site.target writer name, .blank]
  | .done .. => []
  | .next _ _ _ _ first others => first.events ++ others.events
  | .stop _ _ _ _ first => first.events

theorem events_literal {name : String}
    (course : Course plan sites (.literal name) before result after) : course.events = [] := by
  cases course
  rfl

theorem value_of_property {site : Site} {property : Property} {value : String}
    (course : Course plan sites (.property site property) before (.ok value) after) :
    value = site.target := by
  generalize hresult : (Except.ok value : Except Failure String) = result at course
  cases course with
  | ignored => simpa using hresult
  | unfit => simp [Site.closing] at hresult
  | plain _ _ _ _ result => cases result <;> simp_all [Site.closing]
  | nested _ _ _ _ _ _ result => cases result <;> simp_all [Site.closing]
  | collection _ _ _ _ _ _ result => cases result <;> simp_all [Site.closing]

theorem value_of_properties {site : Site} {rest : List Property} {value : String}
    (course : Course plan sites (.properties site rest) before (.ok value) after) :
    value = site.target := by
  generalize hresult : (Except.ok value : Except Failure String) = result at course
  generalize hjob : Job.properties site rest = job at course
  induction course generalizing rest with
  | done => simp_all
  | next site property rest result first others _ ih => simp_all
  | _ => simp_all

end Course

/-! ### Every construction has a course -/

/-- The progress with a stock after some events. -/
def Stock.progress (self : Stock) (events : List Event) : Progress Log :=
  ⟨self.supply, self.ledger, events.toArray⟩

namespace Construction

theorem outcome_emit_progress (event : Event) (stock : Stock) (events : List Event) :
    outcome (emit event) (stock.progress events) =
      (.ok (), stock.progress (events ++ [event])) := by
  simp [outcome_emit, Stock.progress]

theorem outcome_issue_progress {base name : String} {stock : Stock} {ledger : Ledger}
    (h : stock.ledger.issue base = (name, ledger)) (events : List Event) :
    outcome (issue base) (stock.progress events) =
      (.ok name, Stock.progress ⟨stock.supply, ledger⟩ events) := by
  simp [outcome_issue, Stock.progress, h]

end Construction

namespace Plan

open Construction

variable {α : Type} (plan : Plan)

/-- An action does a job: from whatever stock it starts, it goes along some course of the job. -/
def Does (sites : List Site) (job : Job) (value : String → α) (action : Construction Log α) : Prop :=
  ∀ (before : Stock) (earlier : List Event), ∃ result after,
    ∃ course : Course plan sites job before result after,
      outcome action (before.progress earlier) =
        (result.map value, after.progress (earlier ++ course.events))

theorem does_literal (sites : List Site) (name : String) :
    plan.Does sites (.literal name) id (plan.literal name) := by
  intro before earlier
  rcases hdraw : plan.draw name before.supply with ⟨result, supply⟩
  refine ⟨_, _, .literal name result hdraw, ?_⟩
  have hstart : (before.progress earlier).supply = before.supply := rfl
  rw [outcome_literal, hstart, hdraw, Except.map_id]
  simp [Course.events, Stock.progress]

variable {plan} {sites : List Site} {construct : String → List Ty → Construction Log String}

/-- Constructions of further variables do their jobs. -/
def Constructs (plan : Plan) (sites : List Site)
    (construct : String → List Ty → Construction Log String) : Prop :=
  ∀ raw args, plan.Does sites (.value raw args) id (construct raw args)

theorem does_elementJob (hconstruct : plan.Constructs sites construct) (element : Ty) :
    plan.Does sites (plan.elementJob element) id
      (if plan.isSimple element.rawName then plan.literal element.rawName
        else construct element.rawName []) := by
  rw [elementJob]
  split
  · exact plan.does_literal sites _
  · exact hconstruct _ _

theorem outcome_assign (owner writer value : String) (stock : Stock) (events : List Event) :
    outcome (assign owner writer value) (stock.progress events) =
      (.ok (), stock.progress (events ++ [.blank, .call owner writer value, .blank])) := by
  rw [assign, outcome_bind_ok (outcome_emit_progress _ _ _),
    outcome_bind_ok (outcome_emit_progress _ _ _), outcome_emit_progress]
  simp

private theorem bind_ite {c : Prop} [Decidable c] (first second : Construction Log String)
    (tail : String → Construction Log Unit) :
    (if c then first else second) >>= tail = if c then first >>= tail else second >>= tail := by
  split <;> rfl

/-- A value followed by statements that use it and cannot fail. -/
theorem outcome_followUp {action : Construction Log String} {tail : String → Construction Log α}
    {tailEvents : String → List Event} {value : String → α} {start : Progress Log}
    {result : Except Failure String} {events : List Event} {after : Stock}
    (hrun : outcome action start = (result.map id, after.progress events))
    (htail : ∀ text stock events, outcome (tail text) (Stock.progress stock events) =
      (.ok (value text), stock.progress (events ++ tailEvents text))) :
    outcome (action >>= tail) start =
      (result.map value, after.progress (events ++ followUp result tailEvents)) := by
  cases result with
  | error failure =>
    rw [outcome_bind_error hrun]
    simp [followUp, Except.map]
  | ok name =>
    rw [outcome_bind_ok hrun]
    exact htail name after events

theorem outcome_populateShape {site : Site} (hconstruct : plan.Constructs (site :: sites) construct)
    (property : Property) (writer : String) (shape : Shape)
    (hdue : plan.settings.ignores property.name = false)
    (hshape : plan.writerAndShape site.owner site.args property = .ok (writer, shape))
    (before : Stock) (earlier : List Event) :
    ∃ result after,
      ∃ course : Course plan (site :: sites) (.property site property) before
          (site.closing property result) after,
        outcome (plan.populateShape construct site.target writer property shape)
            (before.progress earlier) =
          (result.map fun _ => (), after.progress (earlier ++ course.events)) := by
  cases shape with
  | simple name =>
    rw [populateShape]
    split
    · next hparam =>
      obtain ⟨result, after, course, hrun⟩ := hconstruct name [] before earlier
      refine ⟨result, after, .nested site property writer _ name [] result hdue hshape
        (.simple name hparam) course, ?_⟩
      rw [Course.events, ← List.append_assoc]
      exact outcome_followUp hrun (outcome_assign _ _)
    · next hparam =>
      have hparam : declaresParam property = false := by simpa using hparam
      obtain ⟨result, after, course, hrun⟩ := plan.does_literal (site :: sites) name before earlier
      refine ⟨result, after, .plain site property writer name result hdue hshape hparam course, ?_⟩
      rw [course.events_literal, List.append_nil] at hrun
      exact outcome_followUp hrun fun text stock events =>
        outcome_emit_progress (.call site.target writer text) stock events
  | collection kind element =>
    rcases hissue : before.ledger.issue property.name with ⟨name, ledger⟩
    obtain ⟨result, after, course, hrun⟩ := does_elementJob hconstruct element
      ⟨before.supply, ledger⟩
      (earlier ++ [.blank, collectionEvent kind (Name.simple element.rawName) name])
    have htail : ∀ (value : String) (stock : Stock) (events : List Event),
        outcome (do
          emit (.append name value)
          emit (.call site.target writer name)
          emit .blank) (stock.progress events) =
        (.ok (), stock.progress
          (events ++ [.append name value, .call site.target writer name, .blank])) := by
      intro value stock events
      rw [outcome_bind_ok (outcome_emit_progress _ _ _),
        outcome_bind_ok (outcome_emit_progress _ _ _), outcome_emit_progress]
      simp
    refine ⟨result, after, .collection site property writer kind element name result hdue hshape
      hissue course, ?_⟩
    rw [populateShape, outcome_bind_ok (outcome_issue_progress hissue _),
      outcome_bind_ok (outcome_emit_progress _ _ _), outcome_bind_ok (outcome_emit_progress _ _ _)]
    have hcall := outcome_followUp hrun htail
    rw [bind_ite] at hcall
    simpa [Course.events] using hcall
  | composite raw args =>
    obtain ⟨result, after, course, hrun⟩ := hconstruct raw args before earlier
    refine ⟨result, after, .nested site property writer _ raw args result hdue hshape
      (.composite raw args) course, ?_⟩
    rw [Course.events, ← List.append_assoc]
    exact outcome_followUp hrun (outcome_assign _ _)

theorem does_property {site : Site} (hconstruct : plan.Constructs (site :: sites) construct)
    (property : Property) :
    plan.Does (site :: sites) (.property site property) (fun _ => ())
      (plan.populate construct site.target site.owner site.args property) := by
  intro before earlier
  rw [populate]
  by_cases hignored : plan.settings.ignores property.name = true
  · rw [if_pos hignored]
    refine ⟨_, _, .ignored site property hignored, ?_⟩
    simp [Course.events, Except.map]
  · rw [if_neg hignored, outcome_onProperty]
    have hdue : plan.settings.ignores property.name = false := by simpa using hignored
    rcases hshape : plan.writerAndShape site.owner site.args property with
      obstacle | ⟨writer, shape⟩
    · refine ⟨_, _, .unfit site property obstacle hdue hshape, ?_⟩
      rw [outcome_bind_error (outcome_orStop_error _ _), Course.events, List.append_nil]
      rfl
    · obtain ⟨result, after, course, hrun⟩ :=
        outcome_populateShape hconstruct property writer shape hdue hshape before earlier
      refine ⟨_, _, course, ?_⟩
      rw [outcome_bind_ok (outcome_orStop_ok _ _), hrun]
      cases result <;> rfl

theorem does_properties {site : Site} (hconstruct : plan.Constructs (site :: sites) construct)
    (properties : List Property) :
    plan.Does (site :: sites) (.properties site properties) (fun _ => ())
      (properties.forM (plan.populate construct site.target site.owner site.args)) := by
  induction properties with
  | nil =>
    intro before earlier
    refine ⟨_, _, .done site, ?_⟩
    rw [outcome_forM_nil]
    simp [Course.events, Except.map]
  | cons property rest ih =>
    intro before earlier
    obtain ⟨result, middle, first, hfirst⟩ := does_property hconstruct property before earlier
    cases result with
    | error failure =>
      refine ⟨_, _, .stop site property rest failure first, ?_⟩
      rw [outcome_forM_cons, outcome_bind_error hfirst]
      rfl
    | ok value =>
      obtain rfl := first.value_of_property
      obtain ⟨result, after, others, hothers⟩ := ih middle (earlier ++ first.events)
      refine ⟨_, _, .next site property rest result first others, ?_⟩
      rw [outcome_forM_cons, outcome_bind_ok hfirst, hothers]
      simp [Course.events]

theorem does_simple (room : Nat) (path : List String) {raw : String} (args : List Ty)
    (hsimple : plan.isSimple raw = true) :
    plan.Does sites (.value raw args) id (plan.construct room path raw args) := by
  intro before earlier
  rcases hissue : before.ledger.issue (variableBase raw) with ⟨target, ledger⟩
  obtain ⟨result, after, course, hrun⟩ :=
    plan.does_literal sites raw ⟨before.supply, ledger⟩ earlier
  refine ⟨_, _, .simple raw args target result hissue hsimple course, ?_⟩
  rw [course.events_literal, List.append_nil] at hrun
  rw [plan.construct_simple room path raw args hsimple,
    outcome_bind_ok (outcome_issue_progress hissue _), Except.map_id]
  refine outcome_followUp hrun fun text stock events => ?_
  rw [outcome_bind_ok (outcome_emit_progress _ _ _), outcome_pure]

theorem does_barred (room : Nat) {raw : String} {args : List Ty} {obstacle : Obstacle}
    (hsimple : plan.isSimple raw = false)
    (henter : plan.enter raw args (sites.map Site.key) = .error obstacle) :
    plan.Does sites (.value raw args) id
      (plan.construct room (sites.map Site.key) raw args) := by
  intro before earlier
  rcases hissue : before.ledger.issue (variableBase raw) with ⟨target, ledger⟩
  refine ⟨_, _, .barred raw args target obstacle hissue hsimple henter, ?_⟩
  rw [plan.construct_barred room hsimple henter,
    outcome_bind_ok (outcome_issue_progress hissue _), outcome_stopAt]
  simp [Course.events, Except.map]

theorem does_tooDeep {raw : String} {args : List Ty} {owner : Composite}
    (hsimple : plan.isSimple raw = false)
    (henter : plan.enter raw args (sites.map Site.key) = .ok owner)
    (hdepth : plan.settings.maxDepth ≤ sites.length) :
    plan.Does sites (.value raw args) id (plan.construct 0 (sites.map Site.key) raw args) := by
  intro before earlier
  rcases hissue : before.ledger.issue (variableBase raw) with ⟨target, ledger⟩
  refine ⟨_, _, .tooDeep raw args target owner hissue hsimple henter hdepth, ?_⟩
  rw [plan.construct_zero hsimple henter, outcome_bind_ok (outcome_issue_progress hissue _),
    outcome_stopAt]
  simp [Course.events, Except.map]

theorem does_composite (room : Nat) {raw : String} {args : List Ty} {owner : Composite}
    (hsimple : plan.isSimple raw = false)
    (henter : plan.enter raw args (sites.map Site.key) = .ok owner)
    (hdepth : sites.length < plan.settings.maxDepth)
    (hconstruct : ∀ target, plan.Constructs (⟨target, owner, args⟩ :: sites)
      (plan.construct room (key owner args :: sites.map Site.key))) :
    plan.Does sites (.value raw args) id
      (plan.construct (room + 1) (sites.map Site.key) raw args) := by
  intro before earlier
  rcases hissue : before.ledger.issue (variableBase raw) with ⟨target, ledger⟩
  obtain ⟨result, after, inside, hrun⟩ :=
    does_properties (hconstruct target) (inOrder owner)
      ⟨before.supply, ledger⟩ (earlier ++ [declaration raw args target])
  refine ⟨_, _, .composite raw args target owner result hissue hsimple henter hdepth inside, ?_⟩
  rw [plan.construct_succ room hsimple henter,
    outcome_bind_ok (outcome_issue_progress hissue _), constructComposite,
    outcome_bind_ok (outcome_emit_progress _ _ _)]
  cases result with
  | error failure =>
    rw [outcome_bind_error hrun]
    simp [Course.events, Except.map]
  | ok value =>
    obtain rfl : value = target := inside.value_of_properties
    rw [outcome_bind_ok hrun, outcome_pure]
    simp [Course.events, Except.map]

/-- The room of a construction and the composites that are open add up to the greatest depth. -/
theorem constructs_construct (room : Nat) (sites : List Site)
    (hroom : room + sites.length = plan.settings.maxDepth) :
    plan.Constructs sites (plan.construct room (sites.map Site.key)) := by
  -- Going inside takes from the room what it adds to the path, so the path is left general.
  induction room generalizing sites with
  | zero =>
    intro raw args
    cases hsimple : plan.isSimple raw with
    | true => exact does_simple 0 _ args hsimple
    | false =>
      cases henter : plan.enter raw args (sites.map Site.key) with
      | error obstacle => exact does_barred 0 hsimple henter
      | ok owner => exact does_tooDeep hsimple henter (by omega)
  | succ room ih =>
    intro raw args
    cases hsimple : plan.isSimple raw with
    | true => exact does_simple (room + 1) _ args hsimple
    | false =>
      cases henter : plan.enter raw args (sites.map Site.key) with
      | error obstacle => exact does_barred (room + 1) hsimple henter
      | ok owner =>
        refine does_composite room hsimple henter (by omega) fun target => ?_
        exact ih (⟨target, owner, args⟩ :: sites) (by simp only [List.length_cons]; omega)

end Plan

/-! ### The making of a fixture -/

/-- The course along which a fixture came about, in the scope that was in force. -/
structure Making (catalog : Catalog) (registry : Registry) (settings : Settings) (supply : Supply)
    (root : String) where
  scope : String
  result : Except Failure String
  after : Stock
  course : Course ⟨catalog, registry, settings, scope⟩ [] (.value root []) ⟨supply, {}⟩ result after
  scope_eq : effectiveScope catalog settings root = .ok scope
  outcome_eq : catalog.fixture registry settings supply root =
    ⟨result, course.events, after.supply⟩

namespace Making

variable {catalog : Catalog} {registry : Registry} {settings : Settings} {supply : Supply}
  {root : String} (making : Making catalog registry settings supply root)

theorem result_eq : (catalog.fixture registry settings supply root).result = making.result :=
  congrArg Outcome.result making.outcome_eq

theorem events_eq : (catalog.fixture registry settings supply root).events = making.course.events :=
  congrArg Outcome.events making.outcome_eq

end Making

variable (catalog : Catalog) (registry : Registry) (settings : Settings) (supply : Supply)
  (root : String)

theorem deliver_of_no_scope {σ : Type} [Sink σ] {obstacle : Obstacle}
    (h : effectiveScope catalog settings root = .error obstacle) :
    catalog.deliver σ registry settings supply root =
      ⟨.error { obstacle }, Sink.fresh, supply⟩ := by
  rw [Catalog.deliver, h]

theorem deliver_of_scope {σ : Type} [Sink σ] {scope : String}
    (h : effectiveScope catalog settings root = .ok scope) :
    let plan : Plan := ⟨catalog, registry, settings, scope⟩
    let run := Construction.outcome (plan.construct settings.maxDepth [] root [])
      { supply, sink := (Sink.fresh : σ) }
    catalog.deliver σ registry settings supply root = ⟨run.1, run.2.sink, run.2.supply⟩ := by
  intro plan run
  rw [Catalog.deliver, h]
  rfl

theorem fixture_of_no_scope {obstacle : Obstacle}
    (h : effectiveScope catalog settings root = .error obstacle) :
    catalog.fixture registry settings supply root = ⟨.error { obstacle }, [], supply⟩ := by
  rw [Catalog.fixture, deliver_of_no_scope catalog registry settings supply root h]
  rfl

theorem exists_making {scope : String} (h : effectiveScope catalog settings root = .ok scope) :
    ∃ making : Making catalog registry settings supply root, making.scope = scope := by
  let plan : Plan := ⟨catalog, registry, settings, scope⟩
  obtain ⟨result, after, course, hrun⟩ :=
    plan.constructs_construct settings.maxDepth [] rfl root [] ⟨supply, {}⟩ []
  rw [Except.map_id] at hrun
  refine ⟨⟨scope, result, after, course, h, ?_⟩, rfl⟩
  have hrun : Construction.outcome (plan.construct settings.maxDepth [] root [])
      { supply, sink := (Sink.fresh : Log) } = (result, after.progress course.events) := hrun
  rw [Catalog.fixture, deliver_of_scope catalog registry settings supply root h, hrun]
  simp [Stock.progress]

theorem events_nil_or_making :
    (catalog.fixture registry settings supply root).events = [] ∨
      Nonempty (Making catalog registry settings supply root) := by
  cases hscope : effectiveScope catalog settings root with
  | error obstacle =>
    left
    exact congrArg Outcome.events (fixture_of_no_scope catalog registry settings supply root hscope)
  | ok scope =>
    right
    obtain ⟨making, -⟩ := exists_making catalog registry settings supply root hscope
    exact ⟨making⟩

end Fixture

import Fixture.Proofs.Construction.Course
import Fixture.Proofs.Construction.Outline
import Mathlib.Computability.StateTransition

/-!
# A construction step by step

A construction hands its path on inwards, together with the room that is left. Here is the same
construction as a walk with one path for the whole of it. Entering a composite puts its key on the
path, and finishing it takes the key off; a failure leaves the path as it is. What waits for a value
that is being made is kept beside it. There is no bound on the number of steps but the checks of the
construction itself.

The walk draws nothing from a supply: it has the outline of the events. `exists_walk` says that it
always comes to an end, and that the fixtures of its root are its outline realized from their
supplies. So these fixtures differ in nothing but the literals that were drawn.
-/

namespace Fixture

open StateTransition

/-- A composite that waits for the value of one of its properties: what is called with the value or
with the collection that it goes into, and the properties that come after it. -/
structure Pending where
  site : Site
  property : Property
  writer : String
  collection? : Option String
  rest : List Property

/-- The events that pass on a value once it is there. -/
def Pending.closing (self : Pending) (value : String) : List Event :=
  match self.collection? with
  | none => [.blank, .call self.site.target self.writer value, .blank]
  | some collection =>
    [.append collection value, .call self.site.target self.writer collection, .blank]

/-- What a walk is about to do. -/
inductive Task where
  /-- To make a variable with a value of a type. -/
  | value (raw : String) (args : List Ty)
  /-- To give values to properties of a composite. -/
  | properties (site : Site) (rest : List Property)
  /-- To pass on the variable of a value. -/
  | given (name : String)
  /-- To tell of a failure further out. -/
  | failed (failure : Failure)

namespace Task

def ofResult : Except Failure String → Task
  | .ok name => given name
  | .error failure => failed failure

/-- A property cannot get a value. -/
def refused (site : Site) (property : Property) (obstacle : Obstacle) : Task :=
  failed (Failure.seenFrom { obstacle } site.owner.name property.name)

end Task

structure Walk where
  task : Task
  /-- What waits, the innermost first. -/
  pending : List Pending := []
  /-- The keys of the composites that have been entered and not been finished, the innermost
  first. -/
  path : List String := []
  ledger : Ledger := {}
  outline : List Sketch := []

namespace Walk

def start (root : String) : Walk := { task := .value root [] }

/-- The walk goes on with a task after some events. -/
def goOn (self : Walk) (task : Task) (sketches : List Sketch := []) : Walk :=
  { self with task, outline := self.outline ++ sketches }

/-- The walk turns to a value, for which a composite waits. -/
def await (self : Walk) (raw : String) (args : List Ty) (pending : Pending) : Walk :=
  { self with task := .value raw args, pending := pending :: self.pending }

end Walk

namespace Plan

variable (plan : Plan)

def takeValue (walk : Walk) (raw : String) (args : List Ty) : Walk :=
  let (target, ledger) := walk.ledger.issue (variableBase raw)
  let walk := { walk with ledger }
  if plan.isSimple raw then
    match plan.inscribe (.declare (Name.simple raw) target) raw with
    | .error obstacle => walk.goOn (.failed { obstacle })
    | .ok sketch => walk.goOn (.given target) [sketch]
  else
    match plan.enter raw args walk.path with
    | .error obstacle => walk.goOn (.failed { obstacle })
    | .ok owner =>
      if plan.settings.maxDepth ≤ walk.path.length then
        walk.goOn (.failed { obstacle := .tooDeep plan.settings.maxDepth })
      else
        let walk := { walk with path := key owner args :: walk.path }
        walk.goOn (.properties ⟨target, owner, args⟩ (inOrder owner))
          [.settled (declaration raw args target)]

def takeShape (walk : Walk) (site : Site) (property : Property) (rest : List Property)
    (writer : String) : Shape → Walk
  | .simple name =>
    if declaresParam property then walk.await name [] ⟨site, property, writer, none, rest⟩
    else
      match plan.inscribe (.call site.target writer) name with
      | .error obstacle => walk.goOn (.refused site property obstacle)
      | .ok sketch => walk.goOn (.properties site rest) [sketch]
  | .collection kind element =>
    let (collection, ledger) := walk.ledger.issue property.name
    let opening := [.blank, collectionEvent kind (Name.simple element.rawName) collection]
    let walk := { walk with ledger, outline := walk.outline ++ opening.map Sketch.settled }
    if plan.isSimple element.rawName then
      match plan.inscribe (.append collection) element.rawName with
      | .error obstacle => walk.goOn (.refused site property obstacle)
      | .ok sketch =>
        walk.goOn (.properties site rest)
          (sketch :: [.settled (.call site.target writer collection), .settled .blank])
    else walk.await element.rawName [] ⟨site, property, writer, some collection, rest⟩
  | .composite raw args => walk.await raw args ⟨site, property, writer, none, rest⟩

def takeProperty (walk : Walk) (site : Site) (property : Property) (rest : List Property) : Walk :=
  if plan.settings.ignores property.name then walk.goOn (.properties site rest)
  else
    match plan.writerAndShape site.owner site.args property with
    | .error obstacle => walk.goOn (.refused site property obstacle)
    | .ok (writer, shape) => plan.takeShape walk site property rest writer shape

/-- The next step of a walk; none if it has ended. -/
def step (walk : Walk) : Option Walk :=
  match walk.task, walk.pending with
  | .value raw args, _ => some (plan.takeValue walk raw args)
  | .properties site [], _ =>
    some { walk with task := .given site.target, path := walk.path.tail }
  | .properties site (property :: rest), _ => some (plan.takeProperty walk site property rest)
  | .given value, pending :: outer =>
    some ({ walk with pending := outer }.goOn (.properties pending.site pending.rest)
      ((pending.closing value).map .settled))
  | .failed failure, pending :: outer =>
    some ({ walk with pending := outer }.goOn
      (.failed (failure.seenFrom pending.site.owner.name pending.property.name)))
  | .given _, [] => none
  | .failed _, [] => none

/-- From one moment a walk comes to another. What comes to its outline in between, realized from a
supply, gives events and leaves a supply. -/
structure Walks (walk last : Walk) (before : Supply) (events : List Event) (after : Supply) :
    Prop where
  reaches : Reaches plan.step walk last
  outlined : ∃ outline, last.outline = walk.outline ++ outline ∧
    (∀ sketch ∈ outline, sketch.Registered plan.registry plan.catalog) ∧
    Sketch.realizeAll before outline = (events, after)

variable {plan} {walk next last : Walk} {before middle after : Supply} {events more : List Event}

namespace Walks

theorem refl (walk : Walk) (supply : Supply) : plan.Walks walk walk supply [] supply :=
  ⟨.refl, [], (List.append_nil _).symm, List.forall_mem_nil _, rfl⟩

theorem trans (hfirst : plan.Walks walk next before events middle)
    (hsecond : plan.Walks next last middle more after) :
    plan.Walks walk last before (events ++ more) after := by
  obtain ⟨hreach, first, hfirstOutline, hfirstLawful, hfirstEvents⟩ := hfirst
  obtain ⟨hreach', second, hsecondOutline, hsecondLawful, hsecondEvents⟩ := hsecond
  refine ⟨hreach.trans hreach', first ++ second, ?_, ?_, ?_⟩
  · rw [hsecondOutline, hfirstOutline, List.append_assoc]
  · exact List.forall_mem_append.2 ⟨hfirstLawful, hsecondLawful⟩
  · exact Sketch.realizeAll_append hfirstEvents hsecondEvents

theorem of_step (events : List Event) (supply : Supply) (hstep : plan.step walk = some next)
    (houtline : next.outline = walk.outline ++ events.map .settled) :
    plan.Walks walk next supply events supply := by
  refine ⟨.single hstep, _, houtline, fun sketch hsketch => ?_, Sketch.realizeAll_settled _ _⟩
  obtain ⟨event, -, rfl⟩ := List.mem_map.1 hsketch
  trivial

theorem of_draw (opening closing : List Event) {sketch : Sketch} {event : Event}
    (hlawful : sketch.Registered plan.registry plan.catalog)
    (hrealize : sketch.realize before = (event, after)) (hstep : plan.step walk = some next)
    (houtline : next.outline =
      walk.outline ++ (opening.map .settled ++ sketch :: closing.map .settled)) :
    plan.Walks walk next before (opening ++ event :: closing) after := by
  refine ⟨.single hstep, _, houtline, fun other hother => ?_, ?_⟩
  · simp only [List.mem_append, List.mem_cons, List.mem_map] at hother
    rcases hother with ⟨event, -, rfl⟩ | rfl | ⟨event, -, rfl⟩
    · trivial
    · exact hlawful
    · trivial
  · refine Sketch.realizeAll_append (Sketch.realizeAll_settled _ _) ?_
    exact Sketch.realizeAll_cons hrealize (Sketch.realizeAll_settled _ _)

end Walks

/-! ### Courses walked -/

variable (plan) in
/-- The walk is done with what it was about at one moment: it goes on with another task on some
path, or a failure is told further out. Nothing waits but what waited before. -/
def Finishes (walk : Walk) (result : Except Failure String) (task : String → Task)
    (path : List String) (before after : Stock) (events : List Event) : Prop :=
  match result with
  | .ok name => ∃ outline, plan.Walks walk ⟨task name, walk.pending, path, after.ledger, outline⟩
      before.supply events after.supply
  | .error failure => ∃ left outline,
      plan.Walks walk ⟨.failed failure, walk.pending, left, after.ledger, outline⟩
        before.supply events after.supply

theorem Finishes.head {result : Except Failure String} {task : String → Task}
    {path : List String} {before middle after : Stock}
    (hrest : plan.Finishes next result task path middle after more)
    (hfirst : plan.Walks walk next before.supply events middle.supply)
    (hpending : next.pending = walk.pending) :
    plan.Finishes walk result task path before after (events ++ more) := by
  cases result with
  | ok name =>
    obtain ⟨outline, hrest⟩ := hrest
    exact ⟨outline, hpending ▸ hfirst.trans hrest⟩
  | error failure =>
    obtain ⟨left, outline, hrest⟩ := hrest
    exact ⟨left, outline, hpending ▸ hfirst.trans hrest⟩

theorem Finishes.of_await (pending : Pending) {result : Except Failure String} {path : List String}
    {before middle after : Stock}
    (hvalue : plan.Finishes next result .given path middle after more)
    (hfirst : plan.Walks walk next before.supply events middle.supply)
    (hpending : next.pending = pending :: walk.pending) :
    plan.Finishes walk (pending.site.closing pending.property result)
      (fun _ => .properties pending.site pending.rest) path before after
      (events ++ more ++ followUp result pending.closing) := by
  cases result with
  | ok name =>
    obtain ⟨outline, hvalue⟩ := hvalue
    rw [hpending] at hvalue
    exact ⟨_, (hfirst.trans hvalue).trans (.of_step (pending.closing name) _ rfl rfl)⟩
  | error failure =>
    obtain ⟨left, outline, hvalue⟩ := hvalue
    rw [hpending] at hvalue
    exact ⟨left, _, (hfirst.trans hvalue).trans (.of_step [] _ rfl rfl)⟩

end Plan

namespace Course

open Plan

variable {plan : Plan} {sites outer : List Site} {job : Job} {before after : Stock}
  {result : Except Failure String}

/-- A walk that takes up the job finishes it the way its course went. -/
def Walked {plan : Plan} {sites : List Site} {before after : Stock}
    {result : Except Failure String} :
    {job : Job} → Course plan sites job before result after → Prop
  | .literal _, _ => True
  | .value raw args, course => ∀ pending earlier,
      plan.Finishes ⟨.value raw args, pending, sites.map Site.key, before.ledger, earlier⟩ result
        .given (sites.map Site.key) before after course.events
  | .property site property, course => ∀ rest pending earlier,
      plan.Finishes
        ⟨.properties site (property :: rest), pending, sites.map Site.key, before.ledger, earlier⟩
        result (fun _ => .properties site rest) (sites.map Site.key) before after course.events
  | .properties site rest, course => ∀ pending earlier,
      plan.Finishes ⟨.properties site rest, pending, sites.map Site.key, before.ledger, earlier⟩
        result .given (sites.map Site.key).tail before after course.events

theorem inscribed {name : String} (drawn : Course plan sites (.literal name) before result after)
    (slot : Slot) :
    (∃ sketch text supply, result = .ok text ∧ after = ⟨supply, before.ledger⟩ ∧
        plan.inscribe slot name = .ok sketch ∧
        sketch.realize before.supply = (slot.fill text, supply) ∧
        sketch.Registered plan.registry plan.catalog) ∨
      ∃ obstacle, result = .error { obstacle } ∧ after = before ∧
        plan.inscribe slot name = .error obstacle := by
  cases drawn with
  | literal _ drawn hdraw =>
    rcases plan.inscribe_eq slot name before.supply with
      ⟨sketch, text, supply, hdrawn, hsketch, hrealize, hlawful⟩ | ⟨obstacle, hdrawn, hsketch⟩
    · cases hdraw.symm.trans hdrawn
      exact .inl ⟨sketch, text, _, rfl, rfl, hsketch, hrealize, hlawful⟩
    · cases hdraw.symm.trans hdrawn
      exact .inr ⟨obstacle, rfl, rfl, hsketch⟩

theorem walked_simple {raw target : String} {args : List Ty} {ledger : Ledger}
    (hissue : before.ledger.issue (variableBase raw) = (target, ledger))
    (hsimple : plan.isSimple raw = true)
    (drawn : Course plan sites (.literal raw) ⟨before.supply, ledger⟩ result after) :
    (Course.simple raw args target result hissue hsimple drawn).Walked := by
  intro pending earlier
  rcases drawn.inscribed (.declare (Name.simple raw) target) with
    ⟨sketch, text, supply, rfl, rfl, hsketch, hrealize, hlawful⟩ | ⟨obstacle, rfl, rfl, hsketch⟩
  · refine ⟨earlier ++ [sketch], .of_draw [] [] hlawful hrealize ?_ rfl⟩
    simp only [step, takeValue, hissue, hsimple, hsketch, if_true]
    rfl
  · refine ⟨sites.map Site.key, earlier ++ [], .of_step [] _ ?_ rfl⟩
    simp only [step, takeValue, hissue, hsimple, hsketch, if_true]
    rfl

theorem walked_barred {raw target : String} {args : List Ty} {obstacle : Obstacle} {ledger : Ledger}
    (hissue : before.ledger.issue (variableBase raw) = (target, ledger))
    (hsimple : plan.isSimple raw = false)
    (henter : plan.enter raw args (sites.map Site.key) = .error obstacle) :
    (Course.barred raw args target obstacle hissue hsimple henter).Walked := by
  intro pending earlier
  refine ⟨sites.map Site.key, earlier ++ [], .of_step [] _ ?_ rfl⟩
  simp only [step, takeValue, hissue, hsimple, henter, Bool.false_eq_true, if_false]
  rfl

theorem walked_tooDeep {raw target : String} {args : List Ty} {owner : Composite} {ledger : Ledger}
    (hissue : before.ledger.issue (variableBase raw) = (target, ledger))
    (hsimple : plan.isSimple raw = false)
    (henter : plan.enter raw args (sites.map Site.key) = .ok owner)
    (hdepth : plan.settings.maxDepth ≤ sites.length) :
    (Course.tooDeep raw args target owner hissue hsimple henter hdepth).Walked := by
  intro pending earlier
  refine ⟨sites.map Site.key, earlier ++ [], .of_step [] _ ?_ rfl⟩
  simp only [step, takeValue, hissue, hsimple, henter, Bool.false_eq_true, if_false,
    List.length_map, hdepth, if_true]
  rfl

theorem walked_composite {raw target : String} {args : List Ty} {owner : Composite}
    {ledger : Ledger} (hissue : before.ledger.issue (variableBase raw) = (target, ledger))
    (hsimple : plan.isSimple raw = false)
    (henter : plan.enter raw args (sites.map Site.key) = .ok owner)
    (hdepth : sites.length < plan.settings.maxDepth)
    (inside : Course plan (⟨target, owner, args⟩ :: sites)
      (.properties ⟨target, owner, args⟩ (inOrder owner)) ⟨before.supply, ledger⟩ result after)
    (ih : inside.Walked) :
    (Course.composite raw args target owner result hissue hsimple henter hdepth inside).Walked := by
  intro pending earlier
  refine (ih pending (earlier ++ [.settled (declaration raw args target)])).head
    (.of_step [declaration raw args target] _ ?_ rfl) rfl
  simp only [step, takeValue, hissue, hsimple, henter, Bool.false_eq_true, if_false,
    List.length_map, Nat.not_le.2 hdepth]
  rfl

variable {site : Site} {property : Property} {writer : String}

theorem walked_ignored (hignored : plan.settings.ignores property.name = true) :
    (Course.ignored site property hignored : Course plan (site :: outer) _ before _ _).Walked := by
  intro rest pending earlier
  refine ⟨earlier ++ [], .of_step [] _ ?_ rfl⟩
  simp only [step, takeProperty, hignored, if_true]
  rfl

theorem walked_unfit {obstacle : Obstacle} (hdue : plan.settings.ignores property.name = false)
    (hshape : plan.writerAndShape site.owner site.args property = .error obstacle) :
    (Course.unfit site property obstacle hdue hshape :
      Course plan (site :: outer) _ before _ _).Walked := by
  intro rest pending earlier
  refine ⟨(site :: outer).map Site.key, earlier ++ [], .of_step [] _ ?_ rfl⟩
  simp only [step, takeProperty, hdue, hshape, Bool.false_eq_true, if_false]
  rfl

theorem walked_plain {name : String} (hdue : plan.settings.ignores property.name = false)
    (hshape : plan.writerAndShape site.owner site.args property = .ok (writer, .simple name))
    (hparam : declaresParam property = false)
    (drawn : Course plan (site :: outer) (.literal name) before result after) :
    (Course.plain site property writer name result hdue hshape hparam drawn).Walked := by
  intro rest pending earlier
  rcases drawn.inscribed (.call site.target writer) with
    ⟨sketch, text, supply, rfl, rfl, hsketch, hrealize, hlawful⟩ | ⟨obstacle, rfl, rfl, hsketch⟩
  · refine ⟨earlier ++ [sketch], .of_draw [] [] hlawful hrealize ?_ rfl⟩
    simp only [step, takeProperty, takeShape, hdue, hshape, hparam, hsketch, Bool.false_eq_true,
      if_false]
    rfl
  · refine ⟨(site :: outer).map Site.key, earlier ++ [], .of_step [] _ ?_ rfl⟩
    simp only [step, takeProperty, takeShape, hdue, hshape, hparam, hsketch, Bool.false_eq_true,
      if_false]
    rfl

theorem walked_nested {shape : Shape} {raw : String} {args : List Ty}
    (hdue : plan.settings.ignores property.name = false)
    (hshape : plan.writerAndShape site.owner site.args property = .ok (writer, shape))
    (hthrough : shape.ThroughVariable property raw args)
    (value : Course plan (site :: outer) (.value raw args) before result after)
    (ih : value.Walked) :
    (Course.nested site property writer shape raw args result hdue hshape hthrough
      value).Walked := by
  intro rest pending earlier
  rw [events]
  let waiting : Pending := ⟨site, property, writer, none, rest⟩
  refine .of_await waiting (ih (waiting :: pending) earlier) (.of_step [] _ ?hstep ?houtline) ?_
  case houtline => exact (List.append_nil _).symm
  case hstep =>
    cases hthrough with
    | composite raw args =>
      simp only [step, takeProperty, takeShape, hdue, hshape, Bool.false_eq_true, if_false]
      rfl
    | simple name hparam =>
      simp only [step, takeProperty, takeShape, hdue, hshape, hparam, Bool.false_eq_true, if_false,
        if_true]
      rfl
  rfl

theorem walked_collection {kind : CollectionKind} {element : Ty} {name : String} {ledger : Ledger}
    (hdue : plan.settings.ignores property.name = false)
    (hshape : plan.writerAndShape site.owner site.args property =
      .ok (writer, .collection kind element))
    (hissue : before.ledger.issue property.name = (name, ledger))
    (inside : Course plan (site :: outer) (plan.elementJob element) ⟨before.supply, ledger⟩
      result after) (ih : inside.Walked) :
    (Course.collection site property writer kind element name result hdue hshape hissue
      inside).Walked := by
  intro rest pending earlier
  rw [events]
  let opening := [.blank, collectionEvent kind (Name.simple element.rawName) name]
  generalize hjob : plan.elementJob element = job at inside ih ⊢
  rw [elementJob] at hjob
  split at hjob
  · next hsimple =>
    subst hjob
    rw [inside.events_literal, List.append_nil]
    rcases inside.inscribed (.append name) with
      ⟨sketch, text, supply, rfl, rfl, hsketch, hrealize, hlawful⟩ | ⟨obstacle, rfl, rfl, hsketch⟩
    · refine ⟨_, .of_draw opening [.call site.target writer name, .blank] hlawful hrealize ?_ rfl⟩
      simp only [step, takeProperty, takeShape, hdue, hshape, hissue, hsimple, hsketch,
        Bool.false_eq_true, if_false, if_true, Walk.goOn, List.append_assoc]
      rfl
    · refine ⟨(site :: outer).map Site.key, earlier ++ opening.map Sketch.settled,
        .of_step opening _ ?_ rfl⟩
      simp only [step, takeProperty, takeShape, hdue, hshape, hissue, hsimple, hsketch,
        Bool.false_eq_true, if_false, if_true, Walk.goOn, List.append_nil]
      rfl
  · next hsimple =>
    subst hjob
    let waiting : Pending := ⟨site, property, writer, some name, rest⟩
    refine .of_await waiting (ih (waiting :: pending) (earlier ++ opening.map Sketch.settled))
      (.of_step opening _ ?hstep rfl) ?_
    case hstep =>
      simp only [step, takeProperty, takeShape, hdue, hshape, hissue, hsimple,
        Bool.false_eq_true, if_false]
      rfl
    rfl

theorem walked_done :
    (Course.done site : Course plan (site :: outer) _ before _ _).Walked := by
  intro pending earlier
  exact ⟨earlier, .of_step [] _ rfl (List.append_nil _).symm⟩

theorem walked_next {rest : List Property} {middle : Stock}
    (first : Course plan (site :: outer) (.property site property) before (.ok site.target) middle)
    (others : Course plan (site :: outer) (.properties site rest) middle result after)
    (ihfirst : first.Walked) (ihothers : others.Walked) :
    (Course.next site property rest result first others).Walked := by
  intro pending earlier
  obtain ⟨outline, hfirst⟩ := ihfirst rest pending earlier
  exact (ihothers pending outline).head hfirst rfl

theorem walked_stop {rest : List Property} {failure : Failure}
    (first : Course plan (site :: outer) (.property site property) before (.error failure) after)
    (ih : first.Walked) : (Course.stop site property rest failure first).Walked :=
  fun pending earlier => ih rest pending earlier

/-- Every course can be walked. -/
theorem walked (course : Course plan sites job before result after) : course.Walked := by
  induction course with
  | literal => trivial
  | simple raw args target result hissue hsimple drawn _ => exact walked_simple hissue hsimple drawn
  | barred raw args target obstacle hissue hsimple henter =>
    exact walked_barred hissue hsimple henter
  | tooDeep raw args target owner hissue hsimple henter hdepth =>
    exact walked_tooDeep hissue hsimple henter hdepth
  | composite raw args target owner result hissue hsimple henter hdepth inside ih =>
    exact walked_composite hissue hsimple henter hdepth inside ih
  | ignored site property hignored => exact walked_ignored hignored
  | unfit site property obstacle hdue hshape => exact walked_unfit hdue hshape
  | plain site property writer name result hdue hshape hparam drawn _ =>
    exact walked_plain hdue hshape hparam drawn
  | nested site property writer shape raw args result hdue hshape hthrough value ih =>
    exact walked_nested hdue hshape hthrough value ih
  | collection site property writer kind element name result hdue hshape hissue inside ih =>
    exact walked_collection hdue hshape hissue inside ih
  | done site => exact walked_done
  | next site property rest result first others ihfirst ihothers =>
    exact walked_next first others ihfirst ihothers
  | stop site property rest failure first ih => exact walked_stop first ih

end Course

/-! ### The walk of a fixture -/

/-- A walk that has ended accounts for the fixtures of a root, whatever supply they draw from: their
events are its outline realized. -/
structure Walk.Accounts (last : Walk) (catalog : Catalog) (registry : Registry)
    (settings : Settings) (root : String) (result : Except Failure String) : Prop where
  task : last.task = .ofResult result
  pending : last.pending = []
  registered : ∀ sketch ∈ last.outline, sketch.Registered registry catalog
  fixture_eq : ∀ supply, catalog.fixture registry settings supply root =
    ⟨result, (Sketch.realizeAll supply last.outline).1, (Sketch.realizeAll supply last.outline).2⟩

theorem Task.ofResult_injective : Function.Injective Task.ofResult := by
  intro first second heq
  cases first <;> cases second <;> cases heq <;> rfl

theorem Plan.step_ofResult {plan : Plan} {result : Except Failure String} {last : Walk}
    (htask : last.task = .ofResult result) (hpending : last.pending = []) :
    plan.step last = none := by
  cases result <;> simp [step, htask, hpending, Task.ofResult]

theorem Plan.Finishes.exists_last {plan : Plan} {walk : Walk} {result : Except Failure String}
    {path : List String} {before after : Stock} {events : List Event}
    (h : plan.Finishes walk result .given path before after events) :
    ∃ last, plan.Walks walk last before.supply events after.supply ∧
      last.task = .ofResult result ∧ last.pending = walk.pending := by
  cases result with
  | ok name =>
    obtain ⟨outline, hwalks⟩ := h
    exact ⟨_, hwalks, rfl, rfl⟩
  | error failure =>
    obtain ⟨left, outline, hwalks⟩ := h
    exact ⟨_, hwalks, rfl, rfl⟩

variable {catalog : Catalog} {registry : Registry} {settings : Settings} {root : String}

/-- The walk from the root ends where the course of a fixture does. -/
theorem Making.exists_end {supply : Supply}
    (making : Making catalog registry settings supply root) :
    ∃ last ∈ eval (Plan.step ⟨catalog, registry, settings, making.scope⟩) (.start root),
      last.task = .ofResult making.result ∧ last.pending = [] ∧
      (∀ sketch ∈ last.outline, sketch.Registered registry catalog) ∧
      catalog.fixture registry settings supply root =
        ⟨making.result, (Sketch.realizeAll supply last.outline).1,
          (Sketch.realizeAll supply last.outline).2⟩ := by
  obtain ⟨last, hwalks, htask, hpending⟩ := Plan.Finishes.exists_last (making.course.walked [] [])
  obtain ⟨hreach, outline, houtline, hlawful, hevents⟩ := hwalks
  refine ⟨last, mem_eval.2 ⟨hreach, Plan.step_ofResult htask hpending⟩, htask, hpending, ?_, ?_⟩
  · exact houtline ▸ hlawful
  · have houtline : last.outline = outline := houtline
    rw [houtline, hevents]
    exact making.outcome_eq

variable (registry) in
theorem exists_walk {scope : String} (hscope : effectiveScope catalog settings root = .ok scope) :
    ∃ last result, last ∈ eval (Plan.step ⟨catalog, registry, settings, scope⟩) (.start root) ∧
      last.Accounts catalog registry settings root result := by
  -- Any supply will do: whichever is drawn from, the walk is the same and has only one end.
  obtain ⟨making, rfl⟩ := exists_making catalog registry settings (.seeded 0) root hscope
  obtain ⟨last, hlast, htask, hpending, hlawful, -⟩ := making.exists_end
  refine ⟨last, making.result, hlast, htask, hpending, hlawful, fun supply => ?_⟩
  obtain ⟨other, hsame⟩ := exists_making catalog registry settings supply root hscope
  obtain ⟨otherLast, hend, htask', -, -, hfixture⟩ := other.exists_end
  rw [hsame] at hend
  obtain rfl := Part.mem_unique hlast hend
  rw [hfixture, Task.ofResult_injective (htask'.symm.trans htask)]

/-! ### Fixtures from different supplies -/

/-- Two events that are the same up to a literal, which the strategy of one registered kind drew
from two supplies. -/
inductive Event.Alike (registry : Registry) (catalog : Catalog) : Event → Event → Prop
  | same (event : Event) : Alike registry catalog event event
  | drawn (slot : Slot) {kind : String} {strategy : Strategy}
      (hstrategy : registry.strategy? catalog kind = some strategy) (first second : Supply) :
      Alike registry catalog (slot.fill (strategy.run first).1) (slot.fill (strategy.run second).1)

theorem Sketch.alike_realizeAll {outline : List Sketch}
    (houtline : ∀ sketch ∈ outline, sketch.Registered registry catalog) (first second : Supply) :
    List.Forall₂ (Event.Alike registry catalog) (realizeAll first outline).1
      (realizeAll second outline).1 := by
  -- The literals before a place leave different supplies for it, so these are left general.
  induction outline generalizing first second with
  | nil => exact .nil
  | cons sketch rest ih =>
    obtain ⟨hsketch, hrest⟩ := List.forall_mem_cons.1 houtline
    refine .cons ?_ (ih hrest _ _)
    cases sketch with
    | settled event => exact .same event
    | lacking slot kind strategy => exact .drawn slot hsketch first second

variable (catalog registry settings root) in
/-- Two fixtures of a root that draw from different supplies have the same result, and their events
are alike. -/
theorem fixtures_alike (first second : Supply) :
    (catalog.fixture registry settings first root).result =
        (catalog.fixture registry settings second root).result ∧
      List.Forall₂ (Event.Alike registry catalog)
        (catalog.fixture registry settings first root).events
        (catalog.fixture registry settings second root).events := by
  cases hscope : effectiveScope catalog settings root with
  | error obstacle =>
    rw [fixture_of_no_scope catalog registry settings first root hscope,
      fixture_of_no_scope catalog registry settings second root hscope]
    exact ⟨rfl, .nil⟩
  | ok scope =>
    obtain ⟨last, result, -, haccounts⟩ := exists_walk registry hscope
    rw [haccounts.fixture_eq first, haccounts.fixture_eq second]
    exact ⟨rfl, Sketch.alike_realizeAll haccounts.registered first second⟩

end Fixture

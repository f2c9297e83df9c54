import Fixture.Proofs.Construction.Walk
import Fixture.Proofs.Obstacle
import Fixture.Proofs.Plan

/-!
# What is open on a walk

At every moment of a walk the path holds the keys of the composites that are open, no key twice, and
no more of them than the settings allow. A failure leaves the path as it was, and the properties
that it has passed on its way out are the frames of its trail. Both are read off one invariant: the
open composites lie on one way from the root, where each is what the property of the next one out
asks for.
-/

namespace Fixture

open StateTransition

/-- A composite with the property of it that is getting its value. -/
structure Stage where
  site : Site
  property : Property

namespace Stage

def key (self : Stage) : String := self.site.key

def frame (self : Stage) : Frame := ⟨self.site.owner.name, self.property.name⟩

end Stage

def Pending.stage (self : Pending) : Stage := ⟨self.site, self.property⟩

namespace Walk

/-- What waits, without what is to be done with the value. -/
def stages (self : Walk) : List Stage := self.pending.map Pending.stage

/-- The composites that are open, the innermost first. -/
def sites (self : Walk) : List Site :=
  match self.task with
  | .properties site _ => site :: self.pending.map Pending.site
  | _ => self.pending.map Pending.site

end Walk

namespace Ty

/-- The type of the value that is made for a property of the type: for a collection, the raw type of
its elements. -/
def made (self : Ty) : Ty :=
  match self.collection? with
  | some (_, element) => named element.rawName
  | none => self

def args : Ty → List Ty
  | named _ => []
  | param _ => []
  | applied _ args => args

end Ty

namespace Plan

variable (plan : Plan) (root : String)

/-- The innermost of some stages asks for a value, by name and arguments; without any, the root is
asked for. -/
def Asked : List Stage → String → List Ty → Prop
  | [], raw, args => raw = root ∧ args = []
  | stage :: _, raw, args =>
    ∃ ty, plan.propertyType stage.site.owner stage.site.args stage.property = .ok ty ∧
      ty.made.rawName = raw ∧ ty.made.args = args

/-- A composite is what the stages around it ask for. -/
def Called (outer : List Stage) (site : Site) : Prop :=
  ∃ raw, plan.Asked root outer raw site.args ∧
    plan.catalog.lookup raw = .ok (some (.composite site.owner))

/-- Stages are the way from the root to the innermost of them. -/
inductive Linked : List Stage → Prop
  | nil : Linked []
  | cons {stage : Stage} {outer : List Stage} (houter : Linked outer)
      (hcalled : plan.Called root outer stage.site)
      (hmem : stage.property ∈ stage.site.owner.properties)
      (hdue : plan.settings.ignores stage.property.name = false) : Linked (stage :: outer)

end Plan

/-- What an obstacle says of the stages on the way to it is so. -/
def Obstacle.Befits (stages : List Stage) : Obstacle → Prop
  | tooDeep limit => stages.length = limit
  | cycle key => ∃ stage ∈ stages, stage.key = key
  | missingWriter owner property =>
    ∃ stage, stages.head? = some stage ∧ stage.site.owner.qualifiedName = owner ∧
      stage.property.name = property
  | _ => True

theorem Obstacle.befits_of_ofType {obstacle : Obstacle} (h : obstacle.ofType = true)
    (stages : List Stage) : obstacle.Befits stages := by
  cases obstacle <;> trivial

namespace Plan

variable {plan : Plan} {root : String}

theorem asked_of_through {site : Site} {property : Property} {writer raw : String} {shape : Shape}
    {args : List Ty} (outer : List Stage)
    (hshape : plan.writerAndShape site.owner site.args property = .ok (writer, shape))
    (hthrough : shape.ThroughVariable property raw args) :
    plan.Asked root (⟨site, property⟩ :: outer) raw args := by
  obtain ⟨-, ty, hty, hofTy⟩ := writerAndShape_ok hshape
  refine ⟨ty, hty, ?_⟩
  rcases Shape.ofTy_ok hofTy with ⟨_, _, -, rfl⟩ | ⟨hplain, hcases⟩
  · cases hthrough
  · simp only [Ty.made, hplain]
    rcases hcases with ⟨_, rfl, -, rfl⟩ | ⟨_, rfl, -, rfl⟩ | ⟨_, _, rfl, rfl⟩ <;> cases hthrough <;>
      exact ⟨rfl, rfl⟩

theorem asked_of_collection {site : Site} {property : Property} {writer : String}
    {kind : CollectionKind} {element : Ty} (outer : List Stage)
    (hshape : plan.writerAndShape site.owner site.args property =
      .ok (writer, .collection kind element)) :
    plan.Asked root (⟨site, property⟩ :: outer) element.rawName [] := by
  obtain ⟨-, ty, hty, hofTy⟩ := writerAndShape_ok hshape
  refine ⟨ty, hty, ?_⟩
  rcases Shape.ofTy_ok hofTy with ⟨_, _, hcollection, heq⟩ | ⟨-, hcases⟩
  · cases heq
    simp only [Ty.made, hcollection]
    exact ⟨rfl, rfl⟩
  · rcases hcases with ⟨_, -, -, heq⟩ | ⟨_, -, -, heq⟩ | ⟨_, _, -, heq⟩ <;> cases heq

/-! ### The invariant -/

variable (plan root) in
/-- A task and a path belong together, given the stages that wait. After a failure the path still
has the stages that the failure has left behind. -/
inductive Stands (outer : List Stage) : Task → List String → Prop
  | value {raw : String} {args : List Ty} (hasked : plan.Asked root outer raw args) :
      Stands outer (.value raw args) (outer.map Stage.key)
  | properties {site : Site} {rest : List Property} (hcalled : plan.Called root outer site)
      (hrest : ∀ property ∈ rest, property ∈ site.owner.properties) :
      Stands outer (.properties site rest) (site.key :: outer.map Stage.key)
  | given (name : String) : Stands outer (.given name) (outer.map Stage.key)
  | failed {failure : Failure} (inner : List Stage) {stages : List Stage}
      (hstages : stages = inner ++ outer) (hlinked : plan.Linked root stages)
      (htrail : failure.trail = (inner.map Stage.frame).reverse)
      (hbefits : failure.obstacle.Befits stages) :
      Stands outer (.failed failure) (stages.map Stage.key)

variable (plan root) in
/-- What holds at every moment of a walk from the root. -/
structure Sound (walk : Walk) : Prop where
  linked : plan.Linked root walk.stages
  rests : ∀ pending ∈ walk.pending, ∀ property ∈ pending.rest,
    property ∈ pending.site.owner.properties
  stands : plan.Stands root walk.stages walk.task walk.path
  nodup : walk.path.Nodup
  bounded : walk.path.length ≤ plan.settings.maxDepth

theorem sound_start : plan.Sound root (.start root) where
  linked := .nil
  rests := List.forall_mem_nil _
  stands := .value ⟨rfl, rfl⟩
  nodup := .nil
  bounded := Nat.zero_le _

namespace Sound

variable {walk : Walk}

theorem of_value {raw : String} {args : List Ty} (h : plan.Sound root walk)
    (htask : walk.task = .value raw args) :
    walk.path = walk.stages.map Stage.key ∧ plan.Asked root walk.stages raw args := by
  have hstands := h.stands
  rw [htask] at hstands
  generalize walk.path = path at hstands ⊢
  cases hstands with
  | value hasked => exact ⟨rfl, hasked⟩

theorem of_properties {site : Site} {rest : List Property} (h : plan.Sound root walk)
    (htask : walk.task = .properties site rest) :
    walk.path = site.key :: walk.stages.map Stage.key ∧ plan.Called root walk.stages site ∧
      ∀ property ∈ rest, property ∈ site.owner.properties := by
  have hstands := h.stands
  rw [htask] at hstands
  generalize walk.path = path at hstands ⊢
  cases hstands with
  | properties hcalled hrest => exact ⟨rfl, hcalled, hrest⟩

theorem of_given {name : String} (h : plan.Sound root walk) (htask : walk.task = .given name) :
    walk.path = walk.stages.map Stage.key := by
  have hstands := h.stands
  rw [htask] at hstands
  generalize walk.path = path at hstands ⊢
  cases hstands with
  | given => rfl

theorem of_failed {failure : Failure} (h : plan.Sound root walk)
    (htask : walk.task = .failed failure) :
    ∃ inner, walk.path = (inner ++ walk.stages).map Stage.key ∧
      plan.Linked root (inner ++ walk.stages) ∧
      failure.trail = (inner.map Stage.frame).reverse ∧
      failure.obstacle.Befits (inner ++ walk.stages) := by
  have hstands := h.stands
  rw [htask] at hstands
  generalize walk.path = path at hstands ⊢
  cases hstands with
  | failed inner hstages hlinked htrail hbefits =>
    subst hstages
    exact ⟨inner, rfl, hlinked, htrail, hbefits⟩

/-- Names and events do not matter. -/
theorem restock (h : plan.Sound root walk) (ledger : Ledger) (outline : List Sketch) :
    plan.Sound root { walk with ledger, outline } :=
  ⟨h.linked, h.rests, h.stands, h.nodup, h.bounded⟩

theorem goOn {task : Task} (h : plan.Sound root walk)
    (hstands : plan.Stands root walk.stages task walk.path) (sketches : List Sketch) :
    plan.Sound root (walk.goOn task sketches) :=
  ⟨h.linked, h.rests, hstands, h.nodup, h.bounded⟩

theorem met {obstacle : Obstacle} (h : plan.Sound root walk)
    (hpath : walk.path = walk.stages.map Stage.key) (hbefits : obstacle.Befits walk.stages) :
    plan.Sound root (walk.goOn (.failed { obstacle })) := by
  refine h.goOn ?_ _
  rw [hpath]
  exact .failed [] rfl h.linked rfl hbefits

theorem refused {obstacle : Obstacle} (h : plan.Sound root walk) (stage : Stage)
    (hpath : walk.path = stage.key :: walk.stages.map Stage.key)
    (hstage : plan.Linked root (stage :: walk.stages))
    (hbefits : obstacle.Befits (stage :: walk.stages)) :
    plan.Sound root (walk.goOn (.refused stage.site stage.property obstacle)) := by
  refine h.goOn ?_ _
  rw [hpath]
  exact .failed [stage] rfl hstage rfl hbefits

theorem await {raw : String} {args : List Ty} {pending : Pending} (h : plan.Sound root walk)
    (hpath : walk.path = pending.stage.key :: walk.stages.map Stage.key)
    (hstage : plan.Linked root (pending.stage :: walk.stages))
    (hrest : ∀ property ∈ pending.rest, property ∈ pending.site.owner.properties)
    (hasked : plan.Asked root (pending.stage :: walk.stages) raw args) :
    plan.Sound root (walk.await raw args pending) where
  linked := hstage
  rests := List.forall_mem_cons.2 ⟨hrest, h.rests⟩
  stands := by
    show plan.Stands root (pending.stage :: walk.stages) (.value raw args) walk.path
    rw [hpath]
    exact .value hasked
  nodup := h.nodup
  bounded := h.bounded

end Sound

/-! ### One step -/

variable {walk next : Walk} {site : Site} {property : Property} {rest : List Property}

theorem sound_takeValue {raw : String} {args : List Ty} (h : plan.Sound root walk)
    (htask : walk.task = .value raw args) : plan.Sound root (plan.takeValue walk raw args) := by
  obtain ⟨hpath, hasked⟩ := h.of_value htask
  rw [takeValue]
  rcases walk.ledger.issue (variableBase raw) with ⟨target, ledger⟩
  have hnamed : plan.Sound root { walk with ledger } := h.restock ledger walk.outline
  dsimp only
  split
  · split
    · next hinscribe =>
      exact hnamed.met hpath (Obstacle.befits_of_ofType (ofType_of_inscribe hinscribe) _)
    · refine hnamed.goOn ?_ _
      exact hpath ▸ .given target
  · split
    · next henter =>
      refine hnamed.met hpath ?_
      rcases ofType_or_cycle henter with htype | ⟨owner, -, rfl, hopen⟩
      · exact Obstacle.befits_of_ofType htype _
      · exact List.mem_map.1 (hpath ▸ hopen)
    · next owner henter =>
      split
      · next hdepth =>
        refine hnamed.met hpath ?_
        have hlength := Nat.le_antisymm h.bounded hdepth
        rwa [hpath, List.length_map] at hlength
      · next hdepth =>
        have hcalled : plan.Called root walk.stages ⟨target, owner, args⟩ :=
          ⟨raw, hasked, lookup_of_composite (composite_of_enter henter)⟩
        refine ⟨h.linked, h.rests, ?_, ?_, Nat.lt_of_not_le hdepth⟩
        · show plan.Stands root walk.stages (.properties ⟨target, owner, args⟩ (inOrder owner))
            (key owner args :: walk.path)
          rw [hpath]
          exact .properties hcalled fun property => (perm_inOrder owner).mem_iff.1
        · exact List.nodup_cons.2 ⟨not_mem_of_enter henter, h.nodup⟩

theorem sound_takeShape {writer : String} {shape : Shape} (h : plan.Sound root walk)
    (htask : walk.task = .properties site (property :: rest))
    (hdue : plan.settings.ignores property.name = false)
    (hshape : plan.writerAndShape site.owner site.args property = .ok (writer, shape)) :
    plan.Sound root (plan.takeShape walk site property rest writer shape) := by
  obtain ⟨hpath, hcalled, hrest⟩ := h.of_properties htask
  obtain ⟨hmem, hrest⟩ := List.forall_mem_cons.1 hrest
  let stage : Stage := ⟨site, property⟩
  have hstage : plan.Linked root (stage :: walk.stages) := .cons h.linked hcalled hmem hdue
  have hnext : plan.Stands root walk.stages (.properties site rest) walk.path :=
    hpath ▸ .properties hcalled hrest
  cases shape with
  | simple name =>
    rw [takeShape]
    split
    · next hparam =>
      exact h.await hpath hstage hrest (asked_of_through walk.stages hshape (.simple name hparam))
    · split
      · next hinscribe =>
        refine h.refused stage hpath hstage ?_
        exact Obstacle.befits_of_ofType (ofType_of_inscribe hinscribe) _
      · exact h.goOn hnext _
  | collection kind element =>
    rw [takeShape]
    rcases walk.ledger.issue property.name with ⟨collection, ledger⟩
    have hopened := h.restock ledger
    dsimp only
    split
    · split
      · next hinscribe =>
        refine (hopened _).refused stage hpath hstage ?_
        exact Obstacle.befits_of_ofType (ofType_of_inscribe hinscribe) _
      · exact (hopened _).goOn hnext _
    · exact (hopened _).await hpath hstage hrest (asked_of_collection walk.stages hshape)
  | composite raw args =>
    exact h.await hpath hstage hrest (asked_of_through walk.stages hshape (.composite raw args))

theorem sound_takeProperty (h : plan.Sound root walk)
    (htask : walk.task = .properties site (property :: rest)) :
    plan.Sound root (plan.takeProperty walk site property rest) := by
  obtain ⟨hpath, hcalled, hrest⟩ := h.of_properties htask
  obtain ⟨hmem, hrest⟩ := List.forall_mem_cons.1 hrest
  rw [takeProperty]
  split
  · refine h.goOn ?_ _
    exact hpath ▸ .properties hcalled hrest
  · next hdue =>
    have hdue : plan.settings.ignores property.name = false := by simpa using hdue
    split
    · next hshape =>
      refine h.refused ⟨site, property⟩ hpath (.cons h.linked hcalled hmem hdue) ?_
      rcases missingWriter_or_ofType hshape with rfl | htype
      · exact ⟨_, rfl, rfl, rfl⟩
      · exact Obstacle.befits_of_ofType htype _
    · next hshape => exact sound_takeShape h htask hdue hshape

theorem sound_done (h : plan.Sound root walk) (htask : walk.task = .properties site []) :
    plan.Sound root { walk with task := .given site.target, path := walk.path.tail } := by
  obtain ⟨hpath, -, -⟩ := h.of_properties htask
  refine ⟨h.linked, h.rests, ?_, h.nodup.tail, ?_⟩
  · show plan.Stands root walk.stages (.given site.target) walk.path.tail
    rw [hpath]
    exact .given site.target
  · exact Nat.le_trans (List.tail_sublist _).length_le h.bounded

theorem sound_given {name : String} {pending : Pending} {outer : List Pending}
    (h : plan.Sound root walk) (htask : walk.task = .given name)
    (hpending : walk.pending = pending :: outer) (sketches : List Sketch) :
    plan.Sound root
      ({ walk with pending := outer }.goOn (.properties pending.site pending.rest) sketches) := by
  have hstages : walk.stages = pending.stage :: outer.map Pending.stage := by
    rw [Walk.stages, hpending]
    rfl
  have hlinked := h.linked
  have hpath := h.of_given htask
  have hrests := h.rests
  rw [hstages] at hlinked hpath
  rw [hpending] at hrests
  obtain ⟨hrest, hrests⟩ := List.forall_mem_cons.1 hrests
  cases hlinked with
  | cons houter hcalled hmem hdue =>
    refine ⟨houter, hrests, ?_, h.nodup, h.bounded⟩
    show plan.Stands root (outer.map Pending.stage) (.properties pending.site pending.rest)
      walk.path
    rw [hpath]
    exact .properties hcalled hrest

theorem sound_failed {failure : Failure} {pending : Pending} {outer : List Pending}
    (h : plan.Sound root walk) (htask : walk.task = .failed failure)
    (hpending : walk.pending = pending :: outer) :
    plan.Sound root ({ walk with pending := outer }.goOn
      (.failed (failure.seenFrom pending.site.owner.name pending.property.name))) := by
  have hstages : walk.stages = pending.stage :: outer.map Pending.stage := by
    rw [Walk.stages, hpending]
    rfl
  obtain ⟨inner, hpath, hwhole, htrail, hbefits⟩ := h.of_failed htask
  have hlinked := h.linked
  have hrests := h.rests
  rw [hstages] at hlinked hpath hwhole hbefits
  rw [hpending] at hrests
  cases hlinked with
  | cons houter hcalled hmem hdue =>
    refine ⟨houter, (List.forall_mem_cons.1 hrests).2, ?_, h.nodup, h.bounded⟩
    show plan.Stands root (outer.map Pending.stage) _ walk.path
    rw [hpath]
    refine .failed (inner ++ [pending.stage]) (by simp) hwhole ?_ hbefits
    simp [Failure.seenFrom, htrail, Pending.stage, Stage.frame]

theorem Sound.step (h : plan.Sound root walk) (hstep : plan.step walk = some next) :
    plan.Sound root next := by
  unfold Plan.step at hstep
  split at hstep
  · next htask =>
    cases hstep
    exact sound_takeValue h htask
  · next site htask =>
    cases hstep
    exact sound_done h htask
  · next htask =>
    cases hstep
    exact sound_takeProperty h htask
  · next htask hpending =>
    cases hstep
    exact sound_given h htask hpending _
  · next htask hpending =>
    cases hstep
    exact sound_failed h htask hpending
  · cases hstep
  · cases hstep

/-- The invariant holds all along a walk from the root. -/
theorem sound_of_reaches (h : Reaches plan.step (.start root) walk) : plan.Sound root walk := by
  induction h with
  | refl => exact sound_start
  | tail _ hstep ih => exact ih.step hstep

theorem Sound.path_eq (h : plan.Sound root walk)
    (hrunning : ∀ failure, walk.task ≠ .failed failure) :
    walk.path = walk.sites.map Site.key := by
  have hstages : walk.stages.map Stage.key = (walk.pending.map Pending.site).map Site.key := by
    rw [Walk.stages, List.map_map, List.map_map]
    rfl
  unfold Walk.sites
  cases htask : walk.task with
  | value raw args => exact (h.of_value htask).1.trans hstages
  | properties site rest =>
    rw [(h.of_properties htask).1, hstages]
    rfl
  | given name => exact (h.of_given htask).trans hstages
  | failed failure => exact absurd htask (hrunning failure)

end Plan

/-- The construction of a fixture comes to an end, although nothing bounds it but its own checks:
unless there is no scope for it, its walk ends with the result. At every moment of the walk no more
composites are open than allowed, and no two with the same key; and the variable of a value is there
with the same path as when the value was asked for. -/
theorem construction_ends (catalog : Catalog) (registry : Registry) (settings : Settings)
    (root : String) :
    (∃ obstacle, effectiveScope catalog settings root = .error obstacle ∧ ∀ supply,
        catalog.fixture registry settings supply root = ⟨.error { obstacle }, [], supply⟩) ∨
      ∃ scope, effectiveScope catalog settings root = .ok scope ∧
        let plan : Plan := ⟨catalog, registry, settings, scope⟩
        (∃ last result, last ∈ eval plan.step (.start root) ∧
          last.Accounts catalog registry settings root result) ∧
        ∀ walk, Reaches plan.step (.start root) walk →
          walk.path.length ≤ settings.maxDepth ∧ walk.path.Nodup ∧
          ((∀ failure, walk.task ≠ .failed failure) → walk.path = walk.sites.map Site.key) ∧
          ∀ raw args later name, walk.task = .value raw args → Reaches plan.step walk later →
            later.task = .given name → later.pending = walk.pending → later.path = walk.path := by
  cases hscope : effectiveScope catalog settings root with
  | error obstacle =>
    exact .inl ⟨obstacle, rfl, fun supply =>
      fixture_of_no_scope catalog registry settings supply root hscope⟩
  | ok scope =>
    refine .inr ⟨scope, rfl, exists_walk registry hscope, fun walk hwalk => ?_⟩
    have hsound := Plan.sound_of_reaches hwalk
    refine ⟨hsound.bounded, hsound.nodup, hsound.path_eq, ?_⟩
    intro raw args later name htask hlater hgiven hpending
    -- What waits determines the path of both moments.
    have hpath := (Plan.sound_of_reaches (hwalk.trans hlater)).of_given hgiven
    rw [hpath, (hsound.of_value htask).1, Walk.stages, hpending, Walk.stages]

end Fixture

import Fixture.Proofs.Construction.Course
import Fixture.Proofs.Obstacle
import Fixture.Proofs.Plan
import Mathlib.Data.List.Forall2

/-!
# Constructions that agree

A construction reads its catalogue in two ways only: it asks what a name stands for, and what the
properties of a composite are. Where two plans give matching answers, their constructions take the
same steps. They emit the same events, use up the same names and the same values, and end with the
same variable, or with obstacles that are alike on the same trail. As no step looks at the sink, this
is so into whatever sinks the two emit their events; sinks that correspond at first correspond in the
end.
-/

namespace Fixture

/-- Failures with obstacles that are alike, on the same trail. -/
structure Failure.Alike (alike : Obstacle → Obstacle → Prop) (failure other : Failure) : Prop where
  obstacle : alike failure.obstacle other.obstacle
  trail : failure.trail = other.trail

/-- Which sinks of two kinds correspond: fresh ones do, and those that correspond still do when both
have taken in the same event. -/
structure Sink.Bond (σ τ : Type) [Sink σ] [Sink τ] where
  holds : σ → τ → Prop
  fresh : holds Sink.fresh Sink.fresh
  accept : ∀ sink other event, holds sink other →
    holds (Sink.accept sink event) (Sink.accept other event)

/-- Sinks of one kind correspond to themselves alone. -/
def Sink.Bond.same (σ : Type) [Sink σ] : Sink.Bond σ σ where
  holds := Eq
  fresh := rfl
  accept := by rintro sink _ event rfl; rfl

variable {alike : Obstacle → Obstacle → Prop} {σ τ : Type} [Sink σ] [Sink τ] {bond : Sink.Bond σ τ}

/-- Progress that is the same but for the sinks, which correspond. -/
structure Progress.Bonded (bond : Sink.Bond σ τ) (progress : Progress σ) (other : Progress τ) :
    Prop where
  supply : progress.supply = other.supply
  ledger : progress.ledger = other.ledger
  sink : bond.holds progress.sink other.sink

theorem Progress.bonded_start (bond : Sink.Bond σ τ) (supply : Supply) :
    Progress.Bonded bond { supply, sink := Sink.fresh } { supply, sink := Sink.fresh } :=
  ⟨rfl, rfl, bond.fresh⟩

namespace Construction

variable {α β γ : Type}

/-- Two actions, from whatever progress that is the same but for the sinks, end with the same value
or fail alike, and what they leave is the same again but for the sinks. -/
def Agree (alike : Obstacle → Obstacle → Prop) (bond : Sink.Bond σ τ) (action : Construction σ α)
    (other : Construction τ α) : Prop :=
  ∀ progress second, progress.Bonded bond second →
    Matching (Failure.Alike alike) Eq (outcome action progress).1 (outcome other second).1 ∧
      (outcome action progress).2.Bonded bond (outcome other second).2

namespace Agree

theorem bind {first : Construction σ α} {second : Construction τ α} {next : α → Construction σ β}
    {other : α → Construction τ β} (hfirst : Agree alike bond first second)
    (hnext : ∀ value, Agree alike bond (next value) (other value)) :
    Agree alike bond (first >>= next) (second >>= other) := by
  intro progress progress' hbonded
  obtain ⟨hresult, hmiddle⟩ := hfirst progress progress' hbonded
  rcases hrun : outcome first progress with ⟨result, middle⟩
  rcases hother : outcome second progress' with ⟨result', middle'⟩
  rw [hrun, hother] at hresult hmiddle
  cases hresult with
  | ok hvalue =>
    obtain rfl := hvalue
    rw [outcome_bind_ok hrun, outcome_bind_ok hother]
    exact hnext _ middle middle' hmiddle
  | error halike =>
    rw [outcome_bind_error hrun, outcome_bind_error hother]
    exact ⟨.error halike, hmiddle⟩

theorem pure (value : α) : Agree alike bond (Pure.pure value) (Pure.pure value) :=
  fun _ _ hbonded => ⟨.ok rfl, hbonded⟩

theorem emit (event : Event) : Agree alike bond (emit event) (Construction.emit event) := by
  rintro progress second ⟨hsupply, hledger, hsink⟩
  exact ⟨.ok rfl, hsupply, hledger, bond.accept _ _ event hsink⟩

theorem issue (base : String) : Agree alike bond (issue base) (Construction.issue base) := by
  rintro progress second ⟨hsupply, hledger, hsink⟩
  rw [outcome_issue, outcome_issue, hledger]
  exact ⟨.ok rfl, hsupply, rfl, hsink⟩

theorem stopAt {obstacle other : Obstacle} (h : alike obstacle other) :
    Agree alike bond (stopAt (α := α) obstacle) (Construction.stopAt other) :=
  fun _ _ hbonded => ⟨.error ⟨h, rfl⟩, hbonded⟩

theorem orStop_bind {values : β → γ → Prop} {answer : Except Obstacle β} {reply : Except Obstacle γ}
    {next : β → Construction σ α} {other : γ → Construction τ α}
    (h : Matching alike values answer reply)
    (hnext : ∀ value second, values value second → Agree alike bond (next value) (other second)) :
    Agree alike bond (orStop answer >>= next) (orStop reply >>= other) := by
  intro progress progress' hbonded
  cases h with
  | ok hvalues =>
    rw [outcome_bind_ok (outcome_orStop_ok _ _), outcome_bind_ok (outcome_orStop_ok _ _)]
    exact hnext _ _ hvalues progress progress' hbonded
  | error halike =>
    rw [outcome_bind_error (outcome_orStop_error _ _),
      outcome_bind_error (outcome_orStop_error _ _)]
    exact ⟨.error ⟨halike, rfl⟩, hbonded⟩

theorem onProperty (owner property : String) {action : Construction σ α}
    {other : Construction τ α} (h : Agree alike bond action other) :
    Agree alike bond (onProperty owner property action)
      (Construction.onProperty owner property other) := by
  intro progress progress' hbonded
  obtain ⟨hresult, hprogress⟩ := h progress progress' hbonded
  rw [outcome_onProperty, outcome_onProperty]
  refine ⟨?_, hprogress⟩
  revert hresult
  generalize (outcome action progress).1 = result
  generalize (outcome other progress').1 = result'
  rintro (hvalue | ⟨halike, htrail⟩)
  · exact .ok hvalue
  · exact .error ⟨halike, congrArg (List.cons (Frame.mk owner property)) htrail⟩

theorem forM {sources : List β} {others : List γ} {each : β → Construction σ Unit}
    {other : γ → Construction τ Unit}
    (h : List.Forall₂ (fun source second => Agree alike bond (each source) (other second)) sources
      others) :
    Agree alike bond (sources.forM each) (others.forM other) := by
  induction h with
  | nil => exact pure ()
  | cons hfirst _ ih => exact bind hfirst fun _ => ih

end Agree

end Construction

/-- All names in a shape are known, and there are no parameters in it. -/
def Shape.Ground (known : String → Prop) : Shape → Prop
  | simple name => known name
  | collection _ element => element.Ground known
  | composite raw args => known raw ∧ ∀ arg ∈ args, arg.Ground known

theorem Shape.ground_of_ofTy {registry : Registry} {catalog : Catalog} {ty : Ty} {shape : Shape}
    {known : String → Prop} (hty : ty.Ground known) (h : ofTy registry catalog ty = .ok shape) :
    shape.Ground known := by
  unfold ofTy at h
  split at h
  · cases h
  · split at h
    · cases h
      exact hty.args_of_applied.2 _ (List.mem_singleton_self _)
    · cases h
    · cases h
      exact hty.args_of_applied
  · split at h
    · cases h
    · split at h
      · cases h
        exact hty.rawName
      · cases h
        exact ⟨hty.rawName, List.forall_mem_nil _⟩

/-- In what two plans are compared: which names can be asked for, which obstacles are alike, and
which composites of the one correspond to which of the other. -/
structure Likeness where
  known : String → Prop
  alike : Obstacle → Obstacle → Prop
  paired : Composite → Composite → Prop

/-- What a name stands for in the one catalogue corresponds to what it stands for in the other. -/
inductive Likeness.Finds (likeness : Likeness) :
    Except Obstacle (Option Definition) → Except Obstacle (Option Definition) → Prop
  | nothing : Finds likeness (.ok none) (.ok none)
  | composite {owner other : Composite} (h : likeness.paired owner other) :
      Finds likeness (.ok (some (.composite owner))) (.ok (some (.composite other)))
  | enumeration (enumeration : Enumeration) :
      Finds likeness (.ok (some (.enumeration enumeration))) (.ok (some (.enumeration enumeration)))
  | several {obstacle other : Obstacle} (h : likeness.alike obstacle other) :
      Finds likeness (.error obstacle) (.error other)

theorem Likeness.Finds.self {likeness : Likeness} (found : Except Obstacle (Option Definition))
    (hpaired : ∀ owner, found = .ok (some (.composite owner)) → likeness.paired owner owner)
    (halike : ∀ obstacle, found = .error obstacle → likeness.alike obstacle obstacle) :
    likeness.Finds found found := by
  rcases found with obstacle | _ | owner | enumeration
  · exact .several (halike obstacle rfl)
  · exact .nothing
  · exact .composite (hpaired owner rfl)
  · exact .enumeration enumeration

/-- Values of known names, with arguments that have no parameters, are constructed in agreement. -/
def Likeness.AgreeOn (likeness : Likeness) (bond : Sink.Bond σ τ)
    (construct : String → List Ty → Construction σ String)
    (second : String → List Ty → Construction τ String) : Prop :=
  ∀ raw args, likeness.known raw → (∀ arg ∈ args, arg.Ground likeness.known) →
    Construction.Agree likeness.alike bond (construct raw args) (second raw args)

namespace Plan

/-- Two properties are treated in the same way in composites that were entered with the same
arguments. -/
structure Treats (likeness : Likeness) (plan mirror : Plan) (owner other : Composite)
    (args : List Ty) (property twin : Property) : Prop where
  name : property.name = twin.name
  declaresParam : declaresParam property = declaresParam twin
  shape : Matching likeness.alike
    (fun answer second => answer = second ∧ answer.2.Ground likeness.known)
    (plan.writerAndShape owner args property) (mirror.writerAndShape other args twin)

/-- What known names stand for in the catalogue of one plan corresponds to what they stand for in
the catalogue of the other. -/
structure NamesMirror (likeness : Likeness) (plan mirror : Plan) : Prop where
  registry : plan.registry = mirror.registry
  alike_self : ∀ obstacle : Obstacle, obstacle.ofParam = false → likeness.alike obstacle obstacle
  lookup : ∀ name, likeness.known name →
    likeness.Finds (plan.catalog.lookup name) (mirror.catalog.lookup name)

/-- Two plans give matching answers: to what the known names stand for, and to what becomes of the
properties of composites that correspond. -/
structure Mirrors (likeness : Likeness) (plan mirror : Plan) : Prop
    extends NamesMirror likeness plan mirror where
  maxDepth : plan.settings.maxDepth = mirror.settings.maxDepth
  scope : plan.scope = mirror.scope
  name : ∀ owner other, likeness.paired owner other → owner.name = other.name
  module : ∀ owner other, likeness.paired owner other → owner.module = other.module
  params : ∀ owner other, likeness.paired owner other → owner.params.length = other.params.length
  due : ∀ owner other args, likeness.paired owner other →
    (∀ arg ∈ args, arg.Ground likeness.known) →
    List.Forall₂ (plan.Treats likeness mirror owner other args)
      (plan.due (inOrder owner)) (mirror.due (inOrder other))

/-! ### What depends on a name alone -/

namespace NamesMirror

variable {likeness : Likeness} {plan mirror : Plan} (h : plan.NamesMirror likeness mirror)
  {name : String}

include h

theorem strategy? (hname : likeness.known name) :
    plan.registry.strategy? plan.catalog name = mirror.registry.strategy? mirror.catalog name := by
  rw [Registry.strategy?, Registry.strategy?, h.registry]
  cases mirror.registry.registered? name with
  | some strategy => rfl
  | none =>
    have hfinds := h.lookup name hname
    generalize plan.catalog.lookup name = found at hfinds ⊢
    generalize mirror.catalog.lookup name = second at hfinds ⊢
    cases hfinds <;> rfl

theorem isEnumeration (hname : likeness.known name) :
    plan.catalog.isEnumeration name = mirror.catalog.isEnumeration name := by
  have hfinds := h.lookup name hname
  rw [Catalog.isEnumeration, Catalog.isEnumeration]
  generalize plan.catalog.lookup name = found at hfinds ⊢
  generalize mirror.catalog.lookup name = second at hfinds ⊢
  cases hfinds <;> rfl

theorem isSimple (hname : likeness.known name) : plan.isSimple name = mirror.isSimple name := by
  rw [Plan.isSimple, Plan.isSimple, Registry.isSimple, Registry.isSimple, h.strategy? hname,
    h.isEnumeration hname]

theorem memberOf (hname : likeness.known name) :
    Matching likeness.alike Eq (plan.memberOf name) (mirror.memberOf name) := by
  have hfinds := h.lookup name hname
  have hself : ∀ obstacle, plan.memberOf name = .error obstacle →
      likeness.alike obstacle obstacle := by
    intro obstacle herror
    apply h.alike_self
    exact obstacle.ofParam_of_ofName (ofName_of_memberOf herror)
  unfold Plan.memberOf at hself ⊢
  generalize plan.catalog.lookup name = found at hfinds hself ⊢
  generalize mirror.catalog.lookup name = second at hfinds ⊢
  cases hfinds with
  | several halike => exact .error halike
  | nothing | composite | enumeration => exact .of_eq rfl hself fun _ _ => rfl

theorem agree_literal (hname : likeness.known name) :
    Construction.Agree likeness.alike bond (plan.literal name) (mirror.literal name) := by
  rintro progress second ⟨hsupply, hledger, hsink⟩
  rw [outcome_literal, outcome_literal, hsupply]
  have hstrategy := h.strategy? hname
  cases hsome : plan.registry.strategy? plan.catalog name with
  | some strategy =>
    rw [draw_of_registered hsome, draw_of_registered (hstrategy.symm.trans hsome)]
    exact ⟨.ok rfl, rfl, hledger, hsink⟩
  | none =>
    rw [draw_of_not_registered hsome, draw_of_not_registered (hstrategy.symm.trans hsome)]
    refine ⟨?_, rfl, hledger, hsink⟩
    have hmember := h.memberOf hname
    generalize plan.memberOf name = result at hmember ⊢
    generalize mirror.memberOf name = second at hmember ⊢
    cases hmember with
    | ok heq => exact .ok heq
    | error halike => exact .error ⟨halike, rfl⟩

theorem ofTy {ty : Ty} (hty : ty.Ground likeness.known) :
    Shape.ofTy plan.registry plan.catalog ty = Shape.ofTy mirror.registry mirror.catalog ty := by
  cases hty with
  | @named name hname =>
    have hsimple := h.isSimple hname
    rw [Plan.isSimple, Plan.isSimple] at hsimple
    rw [Shape.ofTy, Shape.ofTy, hsimple]
  | param hname => exact hname.elim
  | applied => rfl

theorem writerAndShape {owner other : Composite} {args : List Ty} {property twin : Property}
    (howner : owner.qualifiedName = other.qualifiedName) (hname : property.name = twin.name)
    (hwriter : property.writer = twin.writer)
    (htype : Matching likeness.alike (fun ty second => ty = second ∧ ty.Ground likeness.known)
      (plan.propertyType owner args property) (mirror.propertyType other args twin)) :
    Matching likeness.alike (fun answer second => answer = second ∧ answer.2.Ground likeness.known)
      (plan.writerAndShape owner args property) (mirror.writerAndShape other args twin) := by
  unfold Plan.writerAndShape
  rw [howner, hname, hwriter]
  cases twin.writer with
  | none => exact .error (h.alike_self _ rfl)
  | some writer =>
    generalize plan.propertyType owner args property = found at htype ⊢
    generalize mirror.propertyType other args twin = second at htype ⊢
    cases htype with
    | error halike => exact .error halike
    | @ok ty _ hty =>
      obtain ⟨rfl, hground⟩ := hty
      show Matching _ _ ((Shape.ofTy plan.registry plan.catalog ty).map _)
        ((Shape.ofTy mirror.registry mirror.catalog ty).map _)
      rw [← h.ofTy hground]
      cases hshape : Shape.ofTy plan.registry plan.catalog ty with
      | ok shape => exact .ok ⟨rfl, Shape.ground_of_ofTy hground hshape⟩
      | error obstacle =>
        have hfree : ty.ParamFree := hground.imp (fun _ _ => trivial) fun _ => id
        exact .error (h.alike_self obstacle (Shape.ofParam_of_ofTy hfree hshape))

theorem treats (hself : ∀ obstacle, likeness.alike obstacle obstacle) {owner other : Composite}
    {args : List Ty} {property : Property} (hargs : ∀ arg ∈ args, arg.Ground likeness.known)
    (hname : owner.qualifiedName = other.qualifiedName) (hparams : owner.params = other.params)
    (hread : plan.catalog.qualifyIn owner.module property.ty =
      mirror.catalog.qualifyIn other.module property.ty)
    (hknown :
      (plan.catalog.qualifyIn owner.module property.ty).Built likeness.known fun _ => True) :
    plan.Treats likeness mirror owner other args property property := by
  refine ⟨rfl, rfl, h.writerAndShape hname rfl rfl ?_⟩
  have htype : plan.propertyType owner args property = mirror.propertyType other args property := by
    have hargument : Binding.argument ⟨owner, args⟩ = Binding.argument ⟨other, args⟩ := by
      funext param
      rw [Binding.argument, Binding.argument, Composite.positionOf?, Composite.positionOf?,
        hparams, hname]
    rw [propertyType, propertyType, Binding.substitute, Binding.substitute, hread, hargument]
  refine .of_eq htype (fun obstacle _ => hself obstacle) fun ty hty => ⟨rfl, ?_⟩
  exact hknown.substitute (fun _ _ arg harg => hargs arg (mem_of_argument harg)) hty

end NamesMirror

/-! ### What depends on the composite that a name stands for -/

namespace Mirrors

variable {likeness : Likeness} {plan mirror : Plan} (h : plan.Mirrors likeness mirror)
  {name : String}

include h

theorem composite (hname : likeness.known name) :
    Matching likeness.alike likeness.paired (plan.composite name) (mirror.composite name) := by
  have hfinds := h.lookup name hname
  have hbarred : likeness.alike (.unsupportedType name) (.unsupportedType name) :=
    h.alike_self _ rfl
  unfold Plan.composite
  generalize plan.catalog.lookup name = found at hfinds ⊢
  generalize mirror.catalog.lookup name = second at hfinds ⊢
  cases hfinds with
  | several halike => exact .error halike
  | nothing | enumeration => exact .error hbarred
  | @composite owner other hpaired =>
    show Matching _ _ (if inScope plan.scope owner.module then _ else _)
      (if inScope mirror.scope other.module then _ else _)
    rw [h.scope, h.module owner other hpaired]
    split
    · exact .ok hpaired
    · exact .error hbarred

theorem qualifiedName {owner other : Composite} (hpaired : likeness.paired owner other) :
    owner.qualifiedName = other.qualifiedName := by
  rw [Composite.qualifiedName, Composite.qualifiedName, h.name owner other hpaired,
    h.module owner other hpaired]

theorem key {owner other : Composite} (hpaired : likeness.paired owner other) (args : List Ty) :
    Plan.key owner args = Plan.key other args := by
  rw [Plan.key, Plan.key, h.qualifiedName hpaired]

theorem mayEnter {owner other : Composite} (hpaired : likeness.paired owner other) (args : List Ty)
    (path : List String) : Plan.mayEnter owner args path = Plan.mayEnter other args path := by
  rw [Plan.mayEnter, Plan.mayEnter, h.key hpaired, h.qualifiedName hpaired,
    h.params owner other hpaired]

theorem enter (hname : likeness.known name) (args : List Ty) (path : List String) :
    Matching likeness.alike likeness.paired (plan.enter name args path)
      (mirror.enter name args path) := by
  have hcomposite := h.composite hname
  unfold Plan.enter
  generalize plan.composite name = found at hcomposite ⊢
  generalize mirror.composite name = second at hcomposite ⊢
  cases hcomposite with
  | error halike => exact .error halike
  | @ok owner other hpaired =>
    show Matching _ _ ((Plan.mayEnter owner args path).map _)
      ((Plan.mayEnter other args path).map _)
    rw [← h.mayEnter hpaired]
    cases hmay : Plan.mayEnter owner args path with
    | ok => exact .ok hpaired
    | error obstacle =>
      have hparam : obstacle.ofParam = false := by
        rcases mayEnter_error hmay with ⟨-, rfl⟩ | ⟨-, rfl⟩ <;> rfl
      exact .error (h.alike_self obstacle hparam)

end Mirrors

/-! ### Constructions -/

section

open Construction

variable (plan : Plan) (construct : String → List Ty → Construction σ String) (target : String)
  (owner : Composite) (args : List Ty)

/-- What is done for a property that is not to be ignored. -/
def populateDue (property : Property) : Construction σ Unit :=
  onProperty owner.name property.name
    (orStop (plan.writerAndShape owner args property) >>= fun answer =>
      plan.populateShape construct target answer.1 property answer.2)

theorem forM_populate (properties : List Property) :
    properties.forM (plan.populate construct target owner args) =
      (plan.due properties).forM (plan.populateDue construct target owner args) := by
  induction properties with
  | nil => rfl
  | cons property rest ih =>
    show (plan.populate construct target owner args property >>= fun _ => rest.forM _) = _
    rw [ih, populate]
    cases hignored : plan.settings.ignores property.name with
    | true =>
      have hdue : plan.due (property :: rest) = plan.due rest := by simp [due, hignored]
      rw [hdue, if_pos rfl]
      exact pure_bind ..
    | false =>
      have hdue : plan.due (property :: rest) = property :: plan.due rest := by
        simp [due, hignored]
      rw [hdue, if_neg Bool.false_ne_true]
      rfl

end

variable {likeness : Likeness} {plan mirror : Plan}
  {construct : String → List Ty → Construction σ String}
  {second : String → List Ty → Construction τ String}

theorem agree_assign (owner writer value : String) :
    Construction.Agree likeness.alike bond (assign owner writer value)
      (assign owner writer value) := by
  refine .bind (.emit _) fun _ => ?_
  exact .bind (.emit _) fun _ => .emit _

namespace Mirrors

variable (h : plan.Mirrors likeness mirror)

include h

theorem agree_populateShape (hconstruct : likeness.AgreeOn bond construct second)
    (target writer : String) {property twin : Property} (hname : property.name = twin.name)
    (hparam : declaresParam property = declaresParam twin) {shape : Shape}
    (hshape : shape.Ground likeness.known) :
    Construction.Agree likeness.alike bond
      (plan.populateShape construct target writer property shape)
      (mirror.populateShape second target writer twin shape) := by
  cases shape with
  | simple name =>
    rw [populateShape, populateShape, hparam]
    split
    · refine .bind (hconstruct name [] hshape (List.forall_mem_nil _)) fun value => ?_
      exact agree_assign target writer value
    · exact .bind (h.agree_literal hshape) fun text => .emit _
  | collection kind element =>
    have hfill : ∀ collection value : String, Construction.Agree likeness.alike bond
        (do
          Construction.emit (.append collection value)
          Construction.emit (.call target writer collection)
          Construction.emit .blank)
        (do
          Construction.emit (.append collection value)
          Construction.emit (.call target writer collection)
          Construction.emit .blank) := by
      intro collection value
      refine .bind (.emit _) fun _ => ?_
      exact .bind (.emit _) fun _ => .emit _
    -- An element is made from the name in front of its type alone.
    have helement : likeness.known element.rawName := Ty.Ground.rawName hshape
    rw [populateShape, populateShape, hname, h.isSimple helement]
    refine .bind (.issue _) fun collection => ?_
    refine .bind (.emit _) fun _ => .bind (.emit _) fun _ => ?_
    split
    · exact .bind (h.agree_literal helement) (hfill collection)
    · exact .bind (hconstruct element.rawName [] helement (List.forall_mem_nil _))
        (hfill collection)
  | composite raw args =>
    rw [populateShape, populateShape]
    refine .bind (hconstruct raw args hshape.1 hshape.2) fun value => ?_
    exact agree_assign target writer value

theorem agree_populateDue (hconstruct : likeness.AgreeOn bond construct second) (target : String)
    {owner other : Composite} (hpaired : likeness.paired owner other) {args : List Ty}
    {property twin : Property}
    (htreats : plan.Treats likeness mirror owner other args property twin) :
    Construction.Agree likeness.alike bond (plan.populateDue construct target owner args property)
      (mirror.populateDue second target other args twin) := by
  rw [populateDue, populateDue, h.name owner other hpaired, htreats.name]
  refine .onProperty _ _ (.orStop_bind htreats.shape ?_)
  rintro answer _ ⟨rfl, hground⟩
  exact h.agree_populateShape hconstruct target _ htreats.name htreats.declaresParam hground

theorem agree_populateAll (hconstruct : likeness.AgreeOn bond construct second) (target : String)
    {owner other : Composite} (hpaired : likeness.paired owner other) {args : List Ty}
    (hargs : ∀ arg ∈ args, arg.Ground likeness.known) :
    Construction.Agree likeness.alike bond
      ((inOrder owner).forM (plan.populate construct target owner args))
      ((inOrder other).forM (mirror.populate second target other args)) := by
  rw [forM_populate, forM_populate]
  refine .forM ((h.due owner other args hpaired hargs).imp ?_)
  exact fun property twin htreats => h.agree_populateDue hconstruct target hpaired htreats

theorem agree_constructSimple {raw : String} (hraw : likeness.known raw) (target : String) :
    Construction.Agree likeness.alike bond (plan.constructSimple raw target)
      (mirror.constructSimple raw target) := by
  refine .bind (h.agree_literal hraw) fun text => ?_
  exact .bind (.emit _) fun _ => .pure target

theorem agree_constructComposite {room : Nat} {path : List String} {raw : String} {args : List Ty}
    {owner other : Composite} (hpaired : likeness.paired owner other)
    (hargs : ∀ arg ∈ args, arg.Ground likeness.known)
    (hconstruct : ∀ path,
      likeness.AgreeOn bond (plan.construct room path) (mirror.construct room path))
    (target : String) :
    Construction.Agree likeness.alike bond
      (plan.constructComposite room path raw args owner target)
      (mirror.constructComposite room path raw args other target) := by
  refine .bind (.emit _) fun _ => .bind ?_ fun _ => .pure target
  rw [h.key hpaired]
  exact h.agree_populateAll (hconstruct _) target hpaired hargs

/-- Constructions by plans that give matching answers agree. -/
theorem agree_construct (room : Nat) (path : List String) :
    likeness.AgreeOn bond (plan.construct room path) (mirror.construct room path) := by
  -- The room is what becomes less on the way inside; the path grows and is left general.
  induction room generalizing path with
  | zero =>
    intro raw args hraw hargs
    rw [construct_eq, construct_eq, h.isSimple hraw]
    refine .bind (.issue _) fun target => ?_
    split
    · exact h.agree_constructSimple hraw target
    · refine .orStop_bind (h.enter hraw args path) fun owner other hpaired => ?_
      rw [constructInside, constructInside, h.maxDepth]
      exact .stopAt (h.alike_self _ rfl)
  | succ room ih =>
    intro raw args hraw hargs
    rw [construct_eq, construct_eq, h.isSimple hraw]
    refine .bind (.issue _) fun target => ?_
    split
    · exact h.agree_constructSimple hraw target
    · refine .orStop_bind (h.enter hraw args path) fun owner other hpaired => ?_
      exact h.agree_constructComposite hpaired hargs ih target

end Mirrors

end Plan

/-! ### Fixtures -/

/-- Two outcomes with the same events and the same supply, which are the same root variable or
failures that are alike. -/
structure Outcome.Agree (alike : Obstacle → Obstacle → Prop) (outcome other : Outcome) : Prop where
  result : Matching (Failure.Alike alike) Eq outcome.result other.result
  events : outcome.events = other.events
  supply : outcome.supply = other.supply

theorem Failure.eq_of_alike {result other : Except Failure String}
    (h : Matching (Failure.Alike Eq) Eq result other) : result = other := by
  cases h with
  | ok hvalue => rw [hvalue]
  | @error failure second halike =>
    obtain ⟨obstacle, trail⟩ := failure
    obtain ⟨_, _⟩ := second
    obtain ⟨rfl, rfl⟩ := halike
    rfl

theorem Outcome.Agree.eq {outcome other : Outcome} (h : outcome.Agree Eq other) :
    outcome = other := by
  obtain ⟨result, events, supply⟩ := outcome
  obtain ⟨_, _, _⟩ := other
  obtain ⟨hresult, rfl, rfl⟩ := h
  obtain rfl := Failure.eq_of_alike hresult
  rfl

/-- Two deliveries with the same supply and sinks that correspond, which are the same root variable
or failures that are alike. -/
structure Delivery.Agree (alike : Obstacle → Obstacle → Prop) (bond : Sink.Bond σ τ)
    (delivery : Delivery σ) (other : Delivery τ) : Prop where
  result : Matching (Failure.Alike alike) Eq delivery.result other.result
  sink : bond.holds delivery.sink other.sink
  supply : delivery.supply = other.supply

variable {likeness : Likeness} {catalog other : Catalog} {registry : Registry}
  {settings changed : Settings} {root : String}

theorem Plan.Mirrors.effectiveScope {scope : String}
    (h : Plan.Mirrors likeness ⟨catalog, registry, settings, scope⟩
      ⟨other, registry, changed, scope⟩)
    (hscope : settings.scope = changed.scope) (hroot : likeness.known root) :
    Matching likeness.alike Eq (effectiveScope catalog settings root)
      (effectiveScope other changed root) := by
  rw [Fixture.effectiveScope, Fixture.effectiveScope, hscope]
  cases changed.scope with
  | some scope => exact .ok rfl
  | none =>
    have hfinds := h.lookup root hroot
    show Matching _ _ (moduleOfRoot catalog root) (moduleOfRoot other root)
    unfold moduleOfRoot
    dsimp only at hfinds
    generalize catalog.lookup root = found at hfinds ⊢
    generalize other.lookup root = second at hfinds ⊢
    cases hfinds with
    | nothing | enumeration => exact .ok rfl
    | composite hpaired => exact .ok (h.module _ _ hpaired)
    | several halike => exact .error halike

theorem Delivery.agree_deliver (bond : Sink.Bond σ τ)
    (h : ∀ scope, Plan.Mirrors likeness ⟨catalog, registry, settings, scope⟩
      ⟨other, registry, changed, scope⟩)
    (hscope : settings.scope = changed.scope) (hroot : likeness.known root) (supply : Supply) :
    Delivery.Agree likeness.alike bond (catalog.deliver σ registry settings supply root)
      (other.deliver τ registry changed supply root) := by
  have heffective := (h "").effectiveScope hscope hroot
  cases hfound : effectiveScope catalog settings root with
  | error obstacle =>
    rw [hfound] at heffective
    obtain ⟨reply, hsecond, halike⟩ := heffective.exists_error
    rw [deliver_of_no_scope _ _ _ _ _ hfound, deliver_of_no_scope _ _ _ _ _ hsecond]
    exact ⟨.error ⟨halike, rfl⟩, bond.fresh, rfl⟩
  | ok scope =>
    rw [hfound] at heffective
    obtain ⟨_, hsecond, rfl⟩ := heffective.exists_ok
    have hdepth : settings.maxDepth = changed.maxDepth := (h scope).maxDepth
    obtain ⟨hresult, hprogress⟩ := (h scope).agree_construct settings.maxDepth [] root [] hroot
      (List.forall_mem_nil _) _ _ (Progress.bonded_start bond supply)
    rw [deliver_of_scope _ _ _ _ _ hfound, deliver_of_scope _ _ _ _ _ hsecond, ← hdepth]
    exact ⟨hresult, hprogress.sink, hprogress.supply⟩

/-- Where plans for two catalogues mirror each other in every scope, the fixtures agree. -/
theorem Outcome.agree_fixture
    (h : ∀ scope, Plan.Mirrors likeness ⟨catalog, registry, settings, scope⟩
      ⟨other, registry, changed, scope⟩)
    (hscope : settings.scope = changed.scope) (hroot : likeness.known root) (supply : Supply) :
    Outcome.Agree likeness.alike (catalog.fixture registry settings supply root)
      (other.fixture registry changed supply root) := by
  obtain ⟨hresult, hlog, hsupply⟩ :=
    Delivery.agree_deliver (Sink.Bond.same Log) h hscope hroot supply
  exact ⟨hresult, congrArg Array.toList hlog, hsupply⟩

end Fixture

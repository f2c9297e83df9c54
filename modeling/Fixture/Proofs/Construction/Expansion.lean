import Fixture.Proofs.Construction.Parts
import Mathlib.Logic.Relation

/-!
# The expansion of a catalogue

A composite entered with arguments leads to others: those that its properties ask for. The catalogue
alone says where the ways from the root lead; a construction follows them depth first, and the
composites that are open are at every moment one such way. So where all ways from the root come to
an end, none of them comes back to where it has been.
-/

namespace Fixture

namespace Plan

variable (plan : Plan)

/-- A name with arguments stands for a composite entered with them. -/
structure Opens (raw : String) (args : List Ty) (binding : Binding) : Prop where
  not_simple : plan.isSimple raw = false
  composite : plan.composite raw = .ok binding.owner
  args : binding.args = args

/-- The values that a property of a composite asks for, by name and arguments: its own, or that of
the element of its collection. -/
inductive Asks (binding : Binding) (property : Property) : String → List Ty → Prop
  | own {writer raw : String} {shape : Shape} {args : List Ty}
      (hshape : plan.writerAndShape binding.owner binding.args property = .ok (writer, shape))
      (hthrough : shape.ThroughVariable property raw args) : Asks binding property raw args
  | element {writer : String} {kind : CollectionKind} {element : Ty}
      (hshape : plan.writerAndShape binding.owner binding.args property =
        .ok (writer, .collection kind element)) :
      Asks binding property element.rawName []

/-- A property of the one that is not to be ignored asks for the other. -/
inductive Leads (outer next : Binding) : Prop
  | property {property : Property} {raw : String} {args : List Ty}
      (hmem : property ∈ outer.owner.properties)
      (hdue : plan.settings.ignores property.name = false)
      (hasks : plan.Asks outer property raw args) (hopens : plan.Opens raw args next)

/-- The ways from the root to a composite, with the composites passed on them, the innermost
first. -/
inductive Path (root : String) : List Binding → Binding → Prop
  | root {top : Binding} (hopens : plan.Opens root [] top) : Path root [] top
  | step {passed : List Binding} {outer next : Binding} (hpath : Path root passed outer)
      (hleads : plan.Leads outer next) : Path root (outer :: passed) next

/-- All ways from a composite come to an end. -/
def Finite (binding : Binding) : Prop := Acc (fun next outer => plan.Leads outer next) binding

/-- All ways from a composite come to an end, and at most so many composites are on one of them. -/
inductive Ends : Nat → Binding → Prop
  | intro {depth : Nat} {binding : Binding}
      (h : ∀ next, plan.Leads binding next → Ends depth next) : Ends (depth + 1) binding

variable {plan} {root : String} {passed : List Binding} {last : Binding}

theorem Path.transGen (hpath : plan.Path root passed last) :
    ∀ binding ∈ passed, Relation.TransGen plan.Leads binding last := by
  induction hpath with
  | root => exact List.forall_mem_nil _
  | step _ hleads ih =>
    refine List.forall_mem_cons.2 ⟨.single hleads, fun binding hbinding => ?_⟩
    exact (ih binding hbinding).tail hleads

theorem Path.finite (hpath : plan.Path root passed last)
    (hroot : ∀ top, plan.Opens root [] top → plan.Finite top) : plan.Finite last := by
  induction hpath with
  | root hopens => exact hroot _ hopens
  | step _ hleads ih => exact Acc.inv ih hleads

theorem Finite.not_transGen {binding : Binding} (h : plan.Finite binding) :
    ¬ Relation.TransGen plan.Leads binding binding := by
  induction h with
  | intro binding _ ih =>
    intro hback
    -- The way back can be begun one step later, at a composite from which all ways are shorter.
    obtain ⟨next, hleads, hnext⟩ := Relation.TransGen.head'_iff.1 hback
    exact ih next hleads (.tail' hnext hleads)

/-! ### Ways that come to an end -/

theorem Ends.finite {depth : Nat} {binding : Binding} (h : plan.Ends depth binding) :
    plan.Finite binding := by
  induction h with
  | intro _ ih => exact Acc.intro _ ih

theorem Ends.mono {depth room : Nat} {binding : Binding} (h : plan.Ends depth binding)
    (hle : depth ≤ room) : plan.Ends room binding := by
  induction h generalizing room with
  | intro _ ih =>
    cases room with
    | zero => exact absurd hle (Nat.not_succ_le_zero _)
    | succ room => exact .intro fun next hleads => ih next hleads (Nat.le_of_succ_le_succ hle)

theorem ends_of_no_properties {binding : Binding} (h : binding.owner.properties = []) :
    plan.Ends 1 binding := by
  refine .intro fun next ⟨hmem, _, _, _⟩ => ?_
  rw [h] at hmem
  exact absurd hmem List.not_mem_nil

theorem Ends.of_only_property {depth : Nat} {binding : Binding} {property : Property}
    {writer raw : String} {args : List Ty} {owner : Composite} (h : plan.Ends depth ⟨owner, args⟩)
    (hproperties : binding.owner.properties = [property])
    (hshape : plan.writerAndShape binding.owner binding.args property =
      .ok (writer, .composite raw args))
    (howner : plan.composite raw = .ok owner) : plan.Ends (depth + 1) binding := by
  refine .intro fun next ⟨hmem, _, hasks, hopens⟩ => ?_
  rw [hproperties] at hmem
  obtain rfl := List.mem_singleton.1 hmem
  cases hasks with
  | element hother =>
    rw [hshape] at hother
    cases hother
  | own hother hthrough =>
    rw [hshape] at hother
    cases hother
    cases hthrough
    obtain ⟨next, nextArgs⟩ := next
    obtain rfl := Except.ok.inj (howner.symm.trans hopens.composite)
    obtain rfl := hopens.args
    exact h

/-- Where all ways from the root come to an end, none of them passes where it ends. -/
theorem Path.not_mem (hpath : plan.Path root passed last)
    (hroot : ∀ top, plan.Opens root [] top → plan.Finite top) : last ∉ passed :=
  fun hmem => (hpath.finite hroot).not_transGen (hpath.transGen last hmem)

end Plan

/-! ### The open composites -/

namespace Site

def binding (self : Site) : Binding := ⟨self.owner, self.args⟩

end Site

/-- Where a job stands on the ways from the root: whatever composite it is going to enter ends the
way along the open ones. -/
def Job.Located (plan : Plan) (root : String) (sites : List Site) : Job → Prop
  | literal _ => True
  | value raw args =>
    ∀ next, plan.Opens raw args next → plan.Path root (sites.map Site.binding) next
  | property site due =>
    due ∈ site.owner.properties ∧
      ∃ outer, sites = site :: outer ∧ plan.Path root (outer.map Site.binding) site.binding
  | properties site rest =>
    (∀ due ∈ rest, due ∈ site.owner.properties) ∧
      ∃ outer, sites = site :: outer ∧ plan.Path root (outer.map Site.binding) site.binding

namespace Course

variable {plan : Plan} {sites : List Site} {job : Job} {before after : Stock}
  {result : Except Failure String} (course : Course plan sites job before result after)

theorem located_inner {root : String} {child : Part plan} (hjob : job.Located plan root sites)
    (hchild : child ∈ course.inner) : child.job.Located plan root child.sites := by
  cases course with
  | simple | plain =>
    obtain rfl := List.mem_singleton.1 hchild
    trivial
  | composite raw args target owner result hissue hsimple henter hdepth inside =>
    obtain rfl := List.mem_singleton.1 hchild
    have hopens : plan.Opens raw args ⟨owner, args⟩ :=
      ⟨hsimple, Plan.composite_of_enter henter, rfl⟩
    exact ⟨fun due => (Plan.perm_inOrder owner).mem_iff.1, sites, rfl, hjob _ hopens⟩
  | nested site property writer shape raw args result hdue hshape hthrough value =>
    obtain rfl := List.mem_singleton.1 hchild
    obtain ⟨hmem, outer, hsites, hpath⟩ := hjob
    obtain ⟨-, rfl⟩ := List.cons.inj hsites
    intro next hopens
    exact .step hpath (.property hmem hdue (.own hshape hthrough) hopens)
  | collection site property writer kind element name result hdue hshape hissue inside =>
    obtain rfl := List.mem_singleton.1 hchild
    obtain ⟨hmem, outer, hsites, hpath⟩ := hjob
    obtain ⟨-, rfl⟩ := List.cons.inj hsites
    show (plan.elementJob element).Located plan root (site :: _)
    rw [Plan.elementJob]
    split
    · trivial
    · intro next hopens
      exact .step hpath (.property hmem hdue (.element hshape) hopens)
  | next site property rest result first others =>
    obtain ⟨hmem, hopen⟩ := hjob
    obtain rfl | rfl : child = first.part ∨ child = others.part := by simpa [inner] using hchild
    · exact ⟨hmem property (List.mem_cons_self ..), hopen⟩
    · exact ⟨fun due hdue => hmem due (List.mem_cons_of_mem _ hdue), hopen⟩
  | stop site property rest failure first =>
    obtain rfl := List.mem_singleton.1 hchild
    exact ⟨hjob.1 property (List.mem_cons_self ..), hjob.2⟩
  | _ => simp [inner] at hchild

end Course

theorem Making.located {catalog : Catalog} {registry : Registry} {settings : Settings}
    {supply : Supply} {root : String} (making : Making catalog registry settings supply root)
    {part : Part making.plan} (hpart : making.whole.Within part) :
    part.job.Located making.plan root part.sites := by
  induction hpart with
  | self => exact fun _ hopens => .root hopens
  | inner _ hchild ih => exact Course.located_inner _ ih hchild

end Fixture

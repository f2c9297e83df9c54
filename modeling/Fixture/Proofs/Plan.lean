import Fixture.Plan
import Fixture.Proofs.Binding
import Fixture.Proofs.Catalog.Reachable

/-!
# What a plan decides

The decisions of a plan, read backwards: where a composite comes from, what the schedule of its
properties is, and what type is behind a shape.
-/

namespace Fixture

/-- The properties that are not to be ignored. -/
def Plan.due (plan : Plan) (properties : List Property) : List Property :=
  properties.filter fun property => !plan.settings.ignores property.name

/-- The properties that get a value in a composite, in the strict order of their names. -/
structure Plan.Schedule (plan : Plan) (owner : Composite) (due : List Property) : Prop where
  perm : due.Perm (owner.properties.filter fun property => !plan.settings.ignores property.name)
  ascending : due.Pairwise (·.name < ·.name)

namespace Plan

variable {plan : Plan} {owner : Composite}

theorem due_append (first second : List Property) :
    plan.due (first ++ second) = plan.due first ++ plan.due second :=
  List.filter_append ..

theorem due_ignored {property : Property} (h : plan.settings.ignores property.name = true) :
    plan.due [property] = [] := by
  simp [due, h]

theorem due_of_not_ignored {property : Property} (h : plan.settings.ignores property.name = false) :
    plan.due [property] = [property] := by
  simp [due, h]

theorem ascending_inOrder (hnodup : (owner.properties.map (·.name)).Nodup) :
    (inOrder owner).Pairwise (·.name < ·.name) := by
  have hnames : (inOrder owner).Pairwise (·.name ≠ ·.name) := by
    refine List.pairwise_map.1 (?_ : ((inOrder owner).map (·.name)).Nodup)
    exact ((perm_inOrder owner).map (·.name)).nodup_iff.2 hnodup
  refine ((pairwise_inOrder owner).and hnames).imp fun ⟨hle, hne⟩ => ?_
  exact Std.not_le.1 fun hge => hne (String.le_antisymm hle hge)

theorem schedule_due (hnodup : (owner.properties.map (·.name)).Nodup) :
    plan.Schedule owner (plan.due (inOrder owner)) :=
  ⟨(perm_inOrder owner).filter _, (ascending_inOrder hnodup).filter _⟩

theorem filter_ascending {earlier later : List Property} {property : Property}
    (h : (earlier ++ property :: later).Pairwise (·.name < ·.name)) :
    (earlier ++ property :: later).filter (·.name < property.name) = earlier := by
  obtain ⟨-, hlater, hcross⟩ := List.pairwise_append.1 h
  have hbelow : ∀ other ∈ earlier, other.name < property.name := fun other hother =>
    hcross other hother property (List.mem_cons_self ..)
  have habove : ∀ other ∈ property :: later, ¬ other.name < property.name := by
    intro other hother hlt
    rcases List.mem_cons.1 hother with rfl | hmem
    · exact String.lt_irrefl _ hlt
    · exact String.lt_irrefl _ (String.lt_trans hlt ((List.pairwise_cons.1 hlater).1 other hmem))
  rw [List.filter_append, List.filter_eq_self.2 (by simpa using hbelow),
    List.filter_eq_nil_iff.2 (by simpa using habove), List.append_nil]

theorem enter_ok {raw : String} {args : List Ty} {path : List String}
    (h : plan.enter raw args path = .ok owner) :
    plan.composite raw = .ok owner ∧ mayEnter owner args path = .ok () := by
  unfold enter at h
  split at h
  · cases h
  · next composite hcomposite =>
    obtain ⟨⟨⟩, hmay, rfl⟩ := map_eq_ok h
    exact ⟨hcomposite, hmay⟩

theorem composite_of_enter {raw : String} {args : List Ty} {path : List String}
    (h : plan.enter raw args path = .ok owner) : plan.composite raw = .ok owner := (enter_ok h).1

theorem not_mem_of_enter {raw : String} {args : List Ty} {path : List String}
    (h : plan.enter raw args path = .ok owner) : key owner args ∉ path := by
  obtain ⟨-, hmay⟩ := enter_ok h
  unfold mayEnter at hmay
  split at hmay
  · cases hmay
  · split at hmay
    · cases hmay
    · next hclosed => exact fun hopen => hclosed (List.contains_iff_mem.2 hopen)

theorem lookup_of_composite {raw : String} (h : plan.composite raw = .ok owner) :
    plan.catalog.lookup raw = .ok (some (.composite owner)) := by
  unfold composite at h
  split at h
  · cases h
  · next hlookup =>
    split at h
    · cases h
      exact hlookup
    · cases h
  · cases h

theorem composite_of_lookup {raw : String}
    (h : plan.catalog.lookup raw = .ok (some (.composite owner))) :
    plan.composite raw =
      if inScope plan.scope owner.module then .ok owner else .error (.unsupportedType raw) := by
  rw [composite, h]

theorem mem_of_composite {raw : String} (h : plan.composite raw = .ok owner) :
    .composite owner ∈ plan.catalog.definitions :=
  Catalog.mem_of_lookup (lookup_of_composite h)

theorem writerAndShape_ok {args : List Ty} {property : Property} {writer : String} {shape : Shape}
    (h : plan.writerAndShape owner args property = .ok (writer, shape)) :
    property.writer = some writer ∧ ∃ ty, plan.propertyType owner args property = .ok ty ∧
      Shape.ofTy plan.registry plan.catalog ty = .ok shape := by
  unfold writerAndShape at h
  split at h
  · cases h
  · next hwriter =>
    split at h
    · cases h
    · next ty hty =>
      obtain ⟨shape, hshape, heq⟩ := map_eq_ok h
      cases heq
      exact ⟨hwriter, ty, hty, hshape⟩

end Plan

/-- The collection that a type is, with the type of its elements. -/
def Ty.collection? : Ty → Option (CollectionKind × Ty)
  | .applied raw [element] => (CollectionKind.ofName? raw).map (·, element)
  | _ => none

theorem Shape.ofTy_ok {registry : Registry} {catalog : Catalog} {ty : Ty} {shape : Shape}
    (h : ofTy registry catalog ty = .ok shape) :
    (∃ kind element, ty.collection? = some (kind, element) ∧ shape = .collection kind element) ∨
      ty.collection? = none ∧
        ((∃ name, ty = .named name ∧ registry.isSimple catalog name = true ∧
            shape = .simple name) ∨
          (∃ name, ty = .named name ∧ registry.isSimple catalog name = false ∧
            shape = .composite name []) ∨
          ∃ raw args, ty = .applied raw args ∧ shape = .composite raw args) := by
  unfold ofTy at h
  split at h
  · cases h
  · split at h
    · next kind element hkind =>
      cases h
      exact .inl ⟨kind, element, by simp [Ty.collection?, hkind], rfl⟩
    · cases h
    · next hkind =>
      cases h
      refine .inr ⟨?_, .inr (.inr ⟨_, _, rfl, rfl⟩)⟩
      unfold Ty.collection?
      split
      · next heq =>
        cases heq
        simp [hkind]
      · rfl
  · next name =>
    split at h
    · cases h
    · refine .inr ⟨rfl, ?_⟩
      split at h
      · next hsimple =>
        cases h
        exact .inl ⟨name, rfl, hsimple, rfl⟩
      · next hsimple =>
        cases h
        exact .inr (.inl ⟨name, rfl, by simpa using hsimple, rfl⟩)

theorem Shape.args_follow {registry : Registry} {catalog : Catalog} {ty : Ty} {raw : String}
    {args : List Ty} {rules : Ty.Rules} {params : Prop}
    (h : ofTy registry catalog ty = .ok (.composite raw args)) (hty : ty.Follows rules params) :
    ∀ arg ∈ args, arg.Follows rules params := by
  rcases ofTy_ok h with ⟨_, _, -, heq⟩ | ⟨-, ⟨_, -, -, heq⟩ | ⟨_, -, -, heq⟩ | ⟨_, _, rfl, heq⟩⟩
  · cases heq
  · cases heq
  · cases heq
    exact List.forall_mem_nil _
  · cases heq
    exact hty.args_of_applied.2

namespace Plan

variable {plan : Plan} {owner : Composite} {args : List Ty} {property : Property} {ty : Ty}

theorem propertyType_named {name : String} (hproperty : property.ty = .named name)
    (h : plan.propertyType owner args property = .ok ty) : ∃ name, ty = .named name := by
  rw [propertyType, hproperty] at h
  cases h
  exact ⟨_, rfl⟩

theorem propertyType_applied {raw : String} {inner : List Ty}
    (hproperty : property.ty = .applied raw inner)
    (h : plan.propertyType owner args property = .ok ty) : ∃ raw args, ty = .applied raw args := by
  rw [propertyType, hproperty] at h
  obtain ⟨arguments, -, rfl⟩ := map_eq_ok h
  exact ⟨_, _, rfl⟩

theorem mem_of_argument {param : String}
    (h : Binding.argument ⟨owner, args⟩ param = .ok ty) : ty ∈ args := by
  obtain ⟨position, -, hposition⟩ := Binding.argument_ok h
  exact List.mem_of_getElem? hposition

theorem propertyType_follows {rules : Ty.Rules} {params allowed : Prop}
    (hproperty : property.ty.Follows rules params) (hargs : ∀ arg ∈ args, arg.Follows rules allowed)
    (h : plan.propertyType owner args property = .ok ty) : ty.Follows rules allowed := by
  refine (hproperty.mapNames fun name => ?_).substitute
    (fun name arg harg => hargs arg (mem_of_argument harg)) h
  rw [Catalog.qualifyName]
  split
  · exact .inr ⟨_, rfl⟩
  · exact .inl rfl

end Plan

end Fixture

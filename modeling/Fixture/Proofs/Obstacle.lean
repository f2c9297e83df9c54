import Fixture.Outcome
import Fixture.Proofs.Binding
import Fixture.Proofs.Catalog.Reachable
import Fixture.Proofs.Construction.Outline

/-!
# Obstacles in the catalogue and obstacles on the path

Most obstacles lie in the catalogue: they are met wherever a construction comes to the same name or
the same property. Only two depend on the composites that are open, and both are met when one more
is to be entered. Of the others only a missing writer belongs to a property; the rest belong to
types: to what their names stand for, to their parameters, or to the arguments of a name.
-/

namespace Fixture

deriving instance DecidableEq for GenericMisuse, Obstacle, Frame, Failure

namespace Obstacle

/-- The obstacle depends on the composites that are open. -/
def onPath : Obstacle → Bool
  | cycle _ => true
  | tooDeep _ => true
  | _ => false

/-- The obstacle lies in a type, whatever property it is the type of. -/
def ofType : Obstacle → Bool
  | cycle _ => false
  | tooDeep _ => false
  | missingWriter _ _ => false
  | _ => true

/-- The obstacle lies in what a name stands for. -/
def ofName : Obstacle → Bool
  | unsupportedType _ => true
  | emptyEnumeration _ => true
  | ambiguousName _ _ => true
  | _ => false

/-- The obstacle lies in a parameter that stands for nothing. -/
def ofParam : Obstacle → Bool
  | unresolvableParam _ _ => true
  | malformedGeneric (.unboundParam _) => true
  | _ => false

theorem onPath_of_ofType {obstacle : Obstacle} (h : obstacle.ofType = true) :
    obstacle.onPath = false := by
  cases obstacle <;> first | rfl | cases h

theorem ofType_of_ofName {obstacle : Obstacle} (h : obstacle.ofName = true) :
    obstacle.ofType = true := by
  cases obstacle <;> first | rfl | cases h

theorem ofParam_of_ofName {obstacle : Obstacle} (h : obstacle.ofName = true) :
    obstacle.ofParam = false := by
  cases obstacle <;> first | rfl | cases h

end Obstacle

variable {obstacle : Obstacle}

theorem Catalog.ofName_of_lookup {catalog : Catalog} {name : String}
    (h : catalog.lookup name = .error obstacle) : obstacle.ofName = true := by
  obtain ⟨candidates, rfl⟩ := lookup_error h
  rfl

theorem ambiguousName_of_effectiveScope {catalog : Catalog} {settings : Settings} {root : String}
    (h : effectiveScope catalog settings root = .error obstacle) :
    ∃ candidates, obstacle = .ambiguousName root candidates := by
  unfold effectiveScope at h
  split at h
  · cases h
  · unfold moduleOfRoot at h
    split at h
    · next hlookup =>
      cases h
      exact Catalog.lookup_error hlookup
    · cases h
    · cases h

theorem ofName_of_effectiveScope {catalog : Catalog} {settings : Settings} {root : String}
    (h : effectiveScope catalog settings root = .error obstacle) : obstacle.ofName = true := by
  obtain ⟨candidates, rfl⟩ := ambiguousName_of_effectiveScope h
  rfl

theorem ofType_of_effectiveScope {catalog : Catalog} {settings : Settings} {root : String}
    (h : effectiveScope catalog settings root = .error obstacle) : obstacle.ofType = true :=
  obstacle.ofType_of_ofName (ofName_of_effectiveScope h)

theorem Shape.ofTy_error {registry : Registry} {catalog : Catalog} {ty : Ty}
    (h : ofTy registry catalog ty = .error obstacle) :
    ∃ misuse, obstacle = .malformedGeneric misuse := by
  unfold ofTy at h
  split at h
  · cases h
    exact ⟨_, rfl⟩
  · split at h
    · cases h
    · cases h
      exact ⟨_, rfl⟩
    · cases h
  · split at h
    · cases h
      exact ⟨_, rfl⟩
    · split at h <;> cases h

theorem Shape.ofParam_of_ofTy {registry : Registry} {catalog : Catalog} {ty : Ty}
    (hty : ty.ParamFree) (h : ofTy registry catalog ty = .error obstacle) :
    obstacle.ofParam = false := by
  unfold ofTy at h
  split at h
  · cases hty with
    | param hname => exact hname.elim
  · split at h
    · cases h
    · cases h
      rfl
    · cases h
  · split at h
    · cases h
      rfl
    · split at h <;> cases h

namespace Plan

variable {plan : Plan} {owner : Composite} {args : List Ty}

theorem ofName_of_composite {raw : String} (h : plan.composite raw = .error obstacle) :
    obstacle.ofName = true := by
  unfold composite at h
  split at h
  · next hlookup =>
    cases h
    exact Catalog.ofName_of_lookup hlookup
  · split at h
    · cases h
    · cases h
      rfl
  · cases h
    rfl

theorem ofName_of_memberOf {name : String} (h : plan.memberOf name = .error obstacle) :
    obstacle.ofName = true := by
  unfold memberOf at h
  split at h
  · next hlookup =>
    cases h
    exact Catalog.ofName_of_lookup hlookup
  · next enumeration _ =>
    cases hmembers : enumeration.members with
    | nil =>
      rw [Registry.memberLiteral, hmembers] at h
      cases h
      rfl
    | cons first rest =>
      rw [Registry.memberLiteral, hmembers] at h
      cases h
  · cases h
    rfl

theorem ofType_of_inscribe {slot : Slot} {name : String}
    (h : plan.inscribe slot name = .error obstacle) : obstacle.ofType = true := by
  unfold inscribe at h
  split at h
  · cases h
  · exact obstacle.ofType_of_ofName (ofName_of_memberOf (map_eq_error h))

theorem ofName_of_draw {name : String} {before after : Supply}
    (h : plan.draw name before = (.error obstacle, after)) : obstacle.ofName = true := by
  cases hstrategy : plan.registry.strategy? plan.catalog name with
  | some strategy =>
    rw [draw_of_registered hstrategy] at h
    cases h
  | none =>
    rw [draw_of_not_registered hstrategy] at h
    exact ofName_of_memberOf (congrArg Prod.fst h)

theorem emptyEnumeration_of_draw {name : String} (hsimple : plan.isSimple name = true)
    {before after : Supply} (h : plan.draw name before = (.error obstacle, after)) :
    ∃ enumeration, plan.catalog.lookup name = .ok (some (.enumeration enumeration)) ∧
      enumeration.members = [] ∧ obstacle = .emptyEnumeration enumeration.qualifiedName ∧
        after = before := by
  rcases Registry.literal_of_simple hsimple before with
    ⟨literal, _, hdrawn⟩ | ⟨enumeration, hlookup, hmembers, hdrawn⟩
  · cases h.symm.trans hdrawn
  · cases h.symm.trans hdrawn
    exact ⟨enumeration, hlookup, hmembers, rfl, rfl⟩

theorem propertyType_error {property : Property} {known declared : String → Prop}
    (hty : property.ty.Built known declared)
    (h : plan.propertyType owner args property = .error obstacle) :
    ∃ param, declared param ∧ obstacle = .unresolvableParam owner.qualifiedName param ∧
      (owner.positionOf? param).bind (args[·]?) = none := by
  have hread : (plan.catalog.qualifyIn owner.module property.ty).Built (fun _ => True) declared :=
    (hty.imp (fun _ _ => trivial) fun _ => id).mapNames
  obtain ⟨param, hparam, hargument⟩ := hread.exists_of_substitute_error h
  exact ⟨param, hparam, Binding.argument_error hargument⟩

theorem writerAndShape_error {property : Property}
    (h : plan.writerAndShape owner args property = .error obstacle) :
    obstacle = .missingWriter owner.qualifiedName property.name ∨
      plan.propertyType owner args property = .error obstacle ∨
      ∃ ty, plan.propertyType owner args property = .ok ty ∧
        Shape.ofTy plan.registry plan.catalog ty = .error obstacle := by
  unfold writerAndShape at h
  split at h
  · cases h
    exact .inl rfl
  · split at h
    · next hty =>
      cases h
      exact .inr (.inl hty)
    · next ty hty => exact .inr (.inr ⟨ty, hty, map_eq_error h⟩)

theorem missingWriter_or_ofType {property : Property}
    (h : plan.writerAndShape owner args property = .error obstacle) :
    obstacle = .missingWriter owner.qualifiedName property.name ∨ obstacle.ofType = true := by
  rcases writerAndShape_error h with rfl | hty | ⟨ty, -, hshape⟩
  · exact .inl rfl
  · obtain ⟨param, -, rfl, -⟩ := propertyType_error property.ty.built_names hty
    exact .inr rfl
  · obtain ⟨misuse, rfl⟩ := Shape.ofTy_error hshape
    exact .inr rfl

/-- What a name stands for is asked only after the writer and the shape of a property are known. -/
theorem ofName_of_writerAndShape {property : Property}
    (h : plan.writerAndShape owner args property = .error obstacle) : obstacle.ofName = false := by
  rcases writerAndShape_error h with rfl | hty | ⟨ty, -, hshape⟩
  · rfl
  · obtain ⟨param, -, rfl, -⟩ := propertyType_error property.ty.built_names hty
    rfl
  · obtain ⟨misuse, rfl⟩ := Shape.ofTy_error hshape
    rfl

theorem onPath_of_writerAndShape {property : Property}
    (h : plan.writerAndShape owner args property = .error obstacle) : obstacle.onPath = false := by
  rcases missingWriter_or_ofType h with rfl | htype
  · rfl
  · exact obstacle.onPath_of_ofType htype

theorem mayEnter_error {path : List String} (h : mayEnter owner args path = .error obstacle) :
    (args ≠ [] ∧ obstacle = .malformedGeneric
        (.argumentCount owner.qualifiedName owner.params.length args.length)) ∨
      key owner args ∈ path ∧ obstacle = .cycle (key owner args) := by
  unfold mayEnter at h
  split at h
  · next hargs =>
    cases h
    exact .inl ⟨by rintro rfl; simp at hargs, rfl⟩
  · split at h
    · next hopen =>
      cases h
      exact .inr ⟨List.contains_iff_mem.1 hopen, rfl⟩
    · cases h

theorem enter_error {raw : String} {path : List String}
    (h : plan.enter raw args path = .error obstacle) :
    obstacle.ofName = true ∨ ∃ owner, plan.composite raw = .ok owner ∧
      ((args ≠ [] ∧ obstacle = .malformedGeneric
          (.argumentCount owner.qualifiedName owner.params.length args.length)) ∨
        key owner args ∈ path ∧ obstacle = .cycle (key owner args)) := by
  unfold enter at h
  split at h
  · next hcomposite =>
    cases h
    exact .inl (ofName_of_composite hcomposite)
  · next owner hcomposite => exact .inr ⟨owner, hcomposite, mayEnter_error (map_eq_error h)⟩

theorem ofType_or_cycle {raw : String} {path : List String}
    (h : plan.enter raw args path = .error obstacle) :
    obstacle.ofType = true ∨ ∃ owner, plan.composite raw = .ok owner ∧
      obstacle = .cycle (key owner args) ∧ key owner args ∈ path := by
  rcases enter_error h with hname | ⟨owner, hcomposite, ⟨-, rfl⟩ | ⟨hopen, rfl⟩⟩
  · exact .inl (obstacle.ofType_of_ofName hname)
  · exact .inl rfl
  · exact .inr ⟨owner, hcomposite, rfl, hopen⟩

theorem ofParam_of_enter {raw : String} {path : List String}
    (h : plan.enter raw args path = .error obstacle) : obstacle.ofParam = false := by
  rcases enter_error h with hname | ⟨owner, -, ⟨-, rfl⟩ | ⟨-, rfl⟩⟩
  · exact obstacle.ofParam_of_ofName hname
  · rfl
  · rfl

end Plan

end Fixture

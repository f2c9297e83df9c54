import Fixture.Emission
import Mathlib.Data.List.Nodup

/-!
# Variables in events

Which variable an event declares, on which variable it acts, and what it passes on. Events are
scoped when they act only on variables that are known, and pass on only such variables or literals;
a variable is known from its declaration on.
-/

namespace Fixture

namespace Event

def declared? : Event → Option String
  | declare _ name _ => some name
  | declareList _ name => some name
  | declareSet _ name => some name
  | _ => none

/-- The variable of a collection that an event declares. -/
def collection? : Event → Option String
  | declareList _ name => some name
  | declareSet _ name => some name
  | _ => none

/-- The variable an event acts on: the owner of a call, the collection that gets an element. -/
def owner? : Event → Option String
  | call owner _ _ => some owner
  | append collection _ => some collection
  | _ => none

/-- What an event passes on: the argument of a call, the element of a collection. -/
def argument? : Event → Option String
  | call _ _ argument => some argument
  | append _ value => some value
  | _ => none

end Event

def declaredIn (events : List Event) : List String := events.filterMap Event.declared?

def collectionsIn (events : List Event) : List String := events.filterMap Event.collection?

def ownersIn (events : List Event) : List String := events.filterMap Event.owner?

def argumentsIn (events : List Event) : List String := events.filterMap Event.argument?

/-- The events that act on a variable. -/
def actingOn (name : String) (events : List Event) : List Event :=
  events.filter fun event => event.owner? = some name

/-- The events that declare a variable. -/
def declarationsOf (name : String) (events : List Event) : List Event :=
  events.filter fun event => event.declared? = some name

section

variable (first second events : List Event) (event : Event)

@[simp] theorem declaredIn_nil : declaredIn [] = [] := rfl

@[simp] theorem declaredIn_cons :
    declaredIn (event :: events) = event.declared?.toList ++ declaredIn events := by
  cases h : event.declared? <;> simp [declaredIn, h]

@[simp] theorem declaredIn_append :
    declaredIn (first ++ second) = declaredIn first ++ declaredIn second :=
  List.filterMap_append

@[simp] theorem ownersIn_nil : ownersIn [] = [] := rfl

@[simp] theorem ownersIn_cons :
    ownersIn (event :: events) = event.owner?.toList ++ ownersIn events := by
  cases h : event.owner? <;> simp [ownersIn, h]

@[simp] theorem ownersIn_append : ownersIn (first ++ second) = ownersIn first ++ ownersIn second :=
  List.filterMap_append

@[simp] theorem argumentsIn_nil : argumentsIn [] = [] := rfl

@[simp] theorem argumentsIn_cons :
    argumentsIn (event :: events) = event.argument?.toList ++ argumentsIn events := by
  cases h : event.argument? <;> simp [argumentsIn, h]

@[simp] theorem argumentsIn_append :
    argumentsIn (first ++ second) = argumentsIn first ++ argumentsIn second :=
  List.filterMap_append

@[simp] theorem actingOn_append (name : String) :
    actingOn name (first ++ second) = actingOn name first ++ actingOn name second :=
  List.filter_append ..

theorem actingOn_cons_of_owner {name : String} (h : event.owner? = none) :
    actingOn name (event :: events) = actingOn name events := by
  simp [actingOn, h]

theorem declarationsOf_eq_singleton {events : List Event} {event : Event} {name : String}
    (hnodup : (declaredIn events).Nodup) (hevent : event ∈ events)
    (hname : event.declared? = some name) : declarationsOf name events = [event] := by
  induction events with
  | nil => cases hevent
  | cons first rest ih =>
    rw [declaredIn_cons, List.nodup_append] at hnodup
    obtain ⟨-, hrest, hcross⟩ := hnodup
    rcases List.mem_cons.1 hevent with rfl | hmem
    · have hothers : declarationsOf name rest = [] := by
        refine List.filter_eq_nil_iff.2 fun other hother hdeclared => ?_
        refine hcross name (by simp [hname]) name ?_ rfl
        exact List.mem_filterMap.2 ⟨other, hother, of_decide_eq_true hdeclared⟩
      rw [declarationsOf, List.filter_cons_of_pos (by simp [hname])]
      exact congrArg _ hothers
    · have hne : first.declared? ≠ some name := fun hfirst =>
        hcross name (by simp [hfirst]) name (List.mem_filterMap.2 ⟨event, hmem, hname⟩) rfl
      rw [declarationsOf, List.filter_cons_of_neg (by simpa using hne)]
      exact ih hrest hmem

theorem actingOn_eq_nil {name : String} (h : name ∉ ownersIn events) :
    actingOn name events = [] := by
  refine List.filter_eq_nil_iff.2 fun event hevent howner => h ?_
  exact List.mem_filterMap.2 ⟨event, hevent, of_decide_eq_true howner⟩

end

/-- Every variable that an event acts on is declared by an event before it. -/
def DeclaredBeforeUse (events : List Event) : Prop :=
  ∀ earlier event later name, events = earlier ++ event :: later → event.owner? = some name →
    name ∈ declaredIn earlier

/-- Events act only on variables that are known, and pass on only such variables or literals. -/
def Scoped (literals : List String) : (known : List String) → List Event → Prop
  | _, [] => True
  | known, event :: later =>
    (∀ name ∈ event.owner?, name ∈ known) ∧
      (∀ name ∈ event.argument?, name ∈ known ∨ name ∈ literals) ∧
        Scoped literals (known ++ event.declared?.toList) later

namespace Scoped

variable {literals known : List String} {first second : List Event}

theorem mono {more wider : List String} {events : List Event}
    (hliterals : literals ⊆ more) (hknown : known ⊆ wider) (h : Scoped literals known events) :
    Scoped more wider events := by
  induction events generalizing known wider with
  | nil => trivial
  | cons event later ih =>
    obtain ⟨howner, hargument, hlater⟩ := h
    refine ⟨fun name hname => hknown (howner name hname), fun name hname => ?_, ?_⟩
    · exact (hargument name hname).imp (hknown ·) (hliterals ·)
    · have hwider : known ⊆ wider ++ event.declared?.toList :=
        List.Subset.trans hknown (List.subset_append_left _ _)
      exact ih (List.append_subset.2 ⟨hwider, List.subset_append_right _ _⟩) hlater

theorem append_iff :
    Scoped literals known (first ++ second) ↔
      Scoped literals known first ∧ Scoped literals (known ++ declaredIn first) second := by
  induction first generalizing known with
  | nil => simp [Scoped]
  | cons event later ih => simp [Scoped, ih, and_assoc]

theorem owner_known {event : Event} {name : String}
    (h : Scoped literals known (first ++ event :: second)) (howner : event.owner? = some name) :
    name ∈ known ++ declaredIn first :=
  (append_iff.1 h).2.1 name howner

theorem declaredBeforeUse {events : List Event} (h : Scoped literals [] events) :
    DeclaredBeforeUse events := by
  rintro earlier event later name rfl howner
  exact h.owner_known howner

theorem owner_mem {events : List Event} {name : String} (h : Scoped literals known events)
    (hname : name ∈ ownersIn events) : name ∈ known ++ declaredIn events := by
  obtain ⟨event, hevent, howner⟩ := List.mem_filterMap.1 hname
  obtain ⟨first, second, rfl⟩ := List.append_of_mem hevent
  have hknown := owner_known h howner
  simp only [declaredIn_append, List.mem_append] at hknown ⊢
  tauto

end Scoped

/-- What events pass on apart from literals. -/
def passedIn (literals : List String) (events : List Event) : List String :=
  (argumentsIn events).filter (· ∉ literals)

section

variable (literals : List String) (first second : List Event)

@[simp] theorem passedIn_append :
    passedIn literals (first ++ second) = passedIn literals first ++ passedIn literals second := by
  simp [passedIn]

theorem mem_passedIn {name : String} {events : List Event} :
    name ∈ passedIn literals events ↔ name ∈ argumentsIn events ∧ name ∉ literals := by
  simp [passedIn]

end

/-- A variable is passed on once, and from there on no event acts on it. -/
structure PassedOnce (events : List Event) (name : String) : Prop where
  once : (argumentsIn events).count name = 1
  last : ∀ earlier event later, events = earlier ++ event :: later → event.argument? = some name →
    ∀ next ∈ event :: later, next.owner? ≠ some name

/-- A later event does not act on a variable that an event passes on. -/
def Event.Releases (literals : List String) (event later : Event) : Prop :=
  ∀ name ∈ event.argument?, name ∉ literals → later.owner? ≠ some name

/-- No event acts on a variable that has been passed on, and none passes on what it acts on. -/
def Releasing (literals : List String) (events : List Event) : Prop :=
  events.Pairwise (Event.Releases literals) ∧ ∀ event ∈ events, event.Releases literals event

namespace Releasing

variable {literals : List String} {first second events : List Event}

theorem of_disjoint (h : ∀ name ∈ passedIn literals events, name ∉ ownersIn events) :
    Releasing literals events := by
  have hrelease : ∀ event ∈ events, ∀ later ∈ events, event.Releases literals later :=
    fun event hevent later hlater name hname hfree howner =>
      h name ((mem_passedIn literals).2 ⟨List.mem_filterMap.2 ⟨event, hevent, hname⟩, hfree⟩)
        (List.mem_filterMap.2 ⟨later, hlater, howner⟩)
  exact ⟨List.pairwise_of_forall_mem_list hrelease, fun event hevent =>
    hrelease event hevent event hevent⟩

theorem nil : Releasing literals [] := of_disjoint (by simp [passedIn])

theorem append (hfirst : Releasing literals first) (hsecond : Releasing literals second)
    (hcross : ∀ name ∈ passedIn literals first, name ∉ ownersIn second) :
    Releasing literals (first ++ second) := by
  refine ⟨List.pairwise_append.2 ⟨hfirst.1, hsecond.1, ?_⟩, ?_⟩
  · intro event hevent later hlater name hname hfree howner
    refine hcross name ((mem_passedIn literals).2 ⟨?_, hfree⟩) ?_
    · exact List.mem_filterMap.2 ⟨event, hevent, hname⟩
    · exact List.mem_filterMap.2 ⟨later, hlater, howner⟩
  · intro event hevent
    exact (List.mem_append.1 hevent).elim (hfirst.2 event) (hsecond.2 event)

theorem owner_ne {event later : Event} {name : String}
    (h : Releasing literals (first ++ event :: second)) (hname : event.argument? = some name)
    (hfree : name ∉ literals) (hlater : later ∈ event :: second) : later.owner? ≠ some name := by
  rcases List.mem_cons.1 hlater with rfl | hmem
  · exact h.2 later (by simp) name hname hfree
  · have hpairs := (List.pairwise_append.1 h.1).2.1
    exact (List.pairwise_cons.1 hpairs).1 later hmem name hname hfree

end Releasing

end Fixture

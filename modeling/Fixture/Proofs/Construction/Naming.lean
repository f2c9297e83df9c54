import Fixture.Proofs.Construction.Course
import Fixture.Proofs.Emission
import Fixture.Proofs.Ledger

/-!
# Names and the flow of values

Every variable of a construction has a name of its own, is declared before it is used, and is passed
on once, when nothing acts on it any more. The argument is one invariant, `Course.issued_declared`:
the variables that a course declares have names that were new when it began and are issued when it
ends. So no two parts of a course share a variable, except the one that holds the composite they
both populate.
-/

namespace Fixture

/-- The variables that a job acts on without declaring them. -/
def Job.holders : Job → List String
  | .literal _ => []
  | .value _ _ => []
  | .property site _ => [site.target]
  | .properties site _ => [site.target]

theorem Job.holders_elementJob (plan : Plan) (element : Ty) :
    (plan.elementJob element).holders = [] := by
  rw [Plan.elementJob]
  split <;> rfl

/-- The variables that a job hands over with its result. -/
def Job.handsOver : Job → String → List String
  | .literal _, _ => []
  | .value _ _, name => [name]
  | .property _ _, _ => []
  | .properties _ _, _ => []

namespace Course

variable {plan : Plan}

/-- The literals drawn in a course. -/
def literals {sites : List Site} {job : Job} {before after : Stock}
    {result : Except Failure String} : Course plan sites job before result after → List String
  | .literal _ result _ =>
    match result with
    | .ok text => [text]
    | .error _ => []
  | .simple _ _ _ _ _ _ drawn => drawn.literals
  | .barred .. => []
  | .tooDeep .. => []
  | .composite _ _ _ _ _ _ _ _ _ inside => inside.literals
  | .ignored .. => []
  | .unfit .. => []
  | .plain _ _ _ _ _ _ _ _ drawn => drawn.literals
  | .nested _ _ _ _ _ _ _ _ _ _ value => value.literals
  | .collection _ _ _ _ _ _ _ _ _ _ inside => inside.literals
  | .done .. => []
  | .next _ _ _ _ first others => first.literals ++ others.literals
  | .stop _ _ _ _ first => first.literals

variable {sites : List Site} {job : Job} {before after : Stock} {result : Except Failure String}

/-! ### What the parts of a course declare -/

section

variable (events : List Event) (target writer collection : String)

theorem declaredIn_opening (kind : CollectionKind) (element : String) :
    declaredIn [.blank, Plan.collectionEvent kind element collection] = [collection] := by
  cases kind <;> rfl

theorem declaredIn_call :
    declaredIn (followUp result fun text => [.call target writer text]) = [] := by
  rw [declaredIn, filterMap_followUp]
  exact followUp_nil result

theorem declaredIn_assignment :
    declaredIn (followUp result fun name => [.blank, .call target writer name, .blank]) = [] := by
  rw [declaredIn, filterMap_followUp]
  exact followUp_nil result

theorem declaredIn_filling :
    declaredIn (followUp result fun value =>
      [.append collection value, .call target writer collection, .blank]) = [] := by
  rw [declaredIn, filterMap_followUp]
  exact followUp_nil result

end

/-! ### What they pass on -/

section

variable {literals : List String} {target writer collection name : String}

theorem passedIn_declaration (raw : String) (args : List Ty) :
    passedIn literals [Plan.declaration raw args target] = [] := rfl

theorem passedIn_opening (kind : CollectionKind) (element : String) :
    passedIn literals [.blank, Plan.collectionEvent kind element collection] = [] := by
  cases kind <;> rfl

theorem passedIn_call (hname : name ∈ literals) :
    passedIn literals (followUp (.ok name) fun text => [.call target writer text]) = [] := by
  simp [passedIn, followUp, Event.argument?, hname]

theorem passedIn_assignment (hname : name ∉ literals) :
    passedIn literals (followUp (.ok name) fun name => [.blank, .call target writer name, .blank]) =
      [name] := by
  simp [passedIn, followUp, Event.argument?, hname]

theorem passedIn_filling (hcollection : collection ∉ literals) (value : String) :
    passedIn literals (followUp (.ok value) fun value =>
        [.append collection value, .call target writer collection, .blank]) =
      [value].filter (· ∉ literals) ++ [collection] := by
  by_cases hvalue : value ∈ literals
  · simp [passedIn, followUp, Event.argument?, hcollection, hvalue]
  · simp [passedIn, followUp, Event.argument?, hcollection, hvalue]

end

/-- The variables that a course declares have names that were issued in its time. -/
theorem issued_declared (course : Course plan sites job before result after) :
    Ledger.Issued before.ledger after.ledger (declaredIn course.events) := by
  induction course with
  | literal => exact .none _
  | simple raw args target result hissue hsimple drawn ih =>
    refine ((Ledger.Issued.one hissue).append ih).sublist ?_
    cases result with
    | error failure => exact List.nil_sublist _
    | ok text => exact List.sublist_append_left _ _
  | barred raw args target obstacle hissue =>
    exact (Ledger.Issued.one hissue).sublist (List.nil_sublist _)
  | tooDeep raw args target owner hissue =>
    exact (Ledger.Issued.one hissue).sublist (List.nil_sublist _)
  | composite raw args target owner result hissue hsimple henter hdepth inside ih =>
    exact (Ledger.Issued.one hissue).append ih
  | ignored => exact .none _
  | unfit => exact .none _
  | plain site property writer name result hdue hshape hparam drawn ih =>
    rw [events, declaredIn_call]
    exact ih.sublist (List.nil_sublist _)
  | nested site property writer shape raw args result hdue hshape hthrough value ih =>
    rw [events, declaredIn_append, declaredIn_assignment, List.append_nil]
    exact ih
  | collection site property writer kind element name result hdue hshape hissue inside ih =>
    rw [events, declaredIn_append, declaredIn_append, declaredIn_opening, declaredIn_filling,
      List.append_nil]
    exact (Ledger.Issued.one hissue).append ih
  | done => exact .none _
  | next site property rest result first others ihfirst ihothers =>
    rw [events, declaredIn_append]
    exact ihfirst.append ihothers
  | stop site property rest failure first ih => exact ih

theorem declared_value {raw : String} {args : List Ty} {name : String}
    (course : Course plan sites (.value raw args) before result after)
    (hresult : result = .ok name) : ∃ later, declaredIn course.events = name :: later := by
  cases course with
  | simple raw args target result hissue hsimple drawn =>
    cases result with
    | error failure => simp [Except.map] at hresult
    | ok text =>
      simp only [Except.map, Except.ok.injEq] at hresult
      exact ⟨[], by simp [events, followUp, Event.declared?, hresult]⟩
  | barred => simp at hresult
  | tooDeep => simp at hresult
  | composite raw args target owner result hissue hsimple henter hdepth inside =>
    subst hresult
    obtain rfl : name = target := inside.value_of_properties
    exact ⟨declaredIn inside.events, by simp [events, Plan.declaration, Event.declared?]⟩

theorem value_declared {raw name : String} {args : List Ty}
    (course : Course plan sites (.value raw args) before (.ok name) after) :
    name ∈ declaredIn course.events := by
  obtain ⟨later, hlater⟩ := course.declared_value rfl
  rw [hlater]
  exact List.mem_cons_self ..

theorem literal_mem {name text : String}
    (course : Course plan sites (.literal name) before result after) (hresult : result = .ok text) :
    text ∈ course.literals := by
  cases course with
  | literal _ result hdraw =>
    cases result with
    | error obstacle => cases hresult
    | ok drawn =>
      obtain rfl : drawn = text := Except.ok.inj hresult
      exact List.mem_singleton_self _

theorem element_declared_or_literal {element : Ty} {value : String}
    (course : Course plan sites (plan.elementJob element) before (.ok value) after) :
    value ∈ declaredIn course.events ∨ value ∈ course.literals := by
  generalize hjob : plan.elementJob element = job at course
  rw [Plan.elementJob] at hjob
  split at hjob
  · subst hjob
    exact .inr (course.literal_mem rfl)
  · subst hjob
    exact .inl course.value_declared

/-- A course acts only on variables that it holds or has declared, and passes on only such variables
and literals. -/
theorem events_scoped (course : Course plan sites job before result after) :
    Scoped course.literals job.holders course.events := by
  induction course with
  | literal => trivial
  | simple raw args target result hissue hsimple drawn ih =>
    cases result <;> simp [events, followUp, Scoped, Event.owner?, Event.argument?]
  | barred => trivial
  | tooDeep => trivial
  | composite raw args target owner result hissue hsimple henter hdepth inside ih =>
    refine ⟨?_, ?_, ih⟩
    · simp [Plan.declaration, Event.owner?]
    · simp [Plan.declaration, Event.argument?]
  | ignored => trivial
  | unfit => trivial
  | plain site property writer name result hdue hshape hparam drawn ih =>
    cases result with
    | error failure => trivial
    | ok text =>
      simp [events, followUp, Scoped, Event.owner?, Event.argument?, Job.holders, literals,
        drawn.literal_mem rfl]
  | nested site property writer shape raw args result hdue hshape hthrough value ih =>
    refine Scoped.append_iff.2 ⟨ih.mono (List.Subset.refl _) (List.nil_subset _), ?_⟩
    cases result with
    | error failure => trivial
    | ok name =>
      simp [followUp, Scoped, Event.owner?, Event.argument?, Job.holders, value.value_declared]
  | collection site property writer kind element name result hdue hshape hissue inside ih =>
    have hopening : Scoped inside.literals [site.target]
        [.blank, Plan.collectionEvent kind (Name.simple element.rawName) name] := by
      cases kind <;> simp [Scoped, Plan.collectionEvent, Event.owner?, Event.argument?]
    rw [Job.holders_elementJob] at ih
    refine Scoped.append_iff.2 ⟨Scoped.append_iff.2 ⟨hopening,
      ih.mono (List.Subset.refl _) (List.nil_subset _)⟩, ?_⟩
    rw [declaredIn_append, declaredIn_opening]
    cases result with
    | error failure => trivial
    | ok value =>
      have hvalue := inside.element_declared_or_literal
      refine ⟨?_, ?_, ?_, ?_, ?_, ?_, trivial⟩ <;>
        simp [Event.owner?, Event.argument?, Event.declared?, Job.holders, literals]
      tauto
  | done => trivial
  | next site property rest result first others ihfirst ihothers =>
    refine Scoped.append_iff.2 ⟨ihfirst.mono (List.subset_append_left _ _) (List.Subset.refl _), ?_⟩
    exact ihothers.mono (List.subset_append_right _ _) (List.subset_append_left _ _)
  | stop site property rest failure first ih => exact ih

/-! ### Every variable is passed on once -/

variable {literals : List String}

theorem handsOver_element {element : Ty} {value : String}
    (course : Course plan sites (plan.elementJob element) before (.ok value) after)
    (hliterals : course.literals ⊆ literals)
    (hfree : ∀ name ∈ declaredIn course.events, name ∉ literals) :
    (plan.elementJob element).handsOver value = [value].filter (· ∉ literals) := by
  generalize hjob : plan.elementJob element = job at course
  rw [Plan.elementJob] at hjob
  split at hjob
  · subst hjob
    simp [Job.handsOver, hliterals (course.literal_mem rfl)]
  · subst hjob
    simp [Job.handsOver, hfree value course.value_declared]

/-- A job that succeeds has passed on each variable that it declared, except the one that it hands
over. -/
theorem passed_perm {value : String} (course : Course plan sites job before result after)
    (hresult : result = .ok value) (hliterals : course.literals ⊆ literals)
    (hfree : ∀ name ∈ declaredIn course.events, name ∉ literals) :
    (job.handsOver value ++ passedIn literals course.events).Perm (declaredIn course.events) := by
  induction course generalizing value with
  | literal => exact .nil
  | simple raw args target result hissue hsimple drawn ih =>
    cases result with
    | error failure => simp [Except.map] at hresult
    | ok text =>
      obtain rfl : target = value := by simpa [Except.map] using hresult
      exact .refl _
  | barred => simp at hresult
  | tooDeep => simp at hresult
  | composite raw args target owner result hissue hsimple henter hdepth inside ih =>
    subst hresult
    obtain rfl : value = target := inside.value_of_properties
    exact (ih rfl hliterals fun name hname => hfree name (List.mem_cons_of_mem _ hname)).cons value
  | ignored => exact .nil
  | unfit => simp [Site.closing] at hresult
  | plain site property writer name result hdue hshape hparam drawn ih =>
    cases result with
    | error failure => simp [Site.closing] at hresult
    | ok text =>
      rw [events, declaredIn_call, passedIn_call (hliterals (drawn.literal_mem rfl))]
      exact .nil
  | nested site property writer shape raw args result hdue hshape hthrough course ih =>
    cases result with
    | error failure => simp [Site.closing] at hresult
    | ok name =>
      rw [events, declaredIn_append, declaredIn_assignment, List.append_nil] at hfree ⊢
      rw [Job.handsOver, List.nil_append, passedIn_append,
        passedIn_assignment (hfree name course.value_declared)]
      exact List.perm_append_comm.trans (ih rfl hliterals hfree)
  | collection site property writer kind element name result hdue hshape hissue inside ih =>
    cases result with
    | error failure => simp [Site.closing] at hresult
    | ok value =>
      rw [events, declaredIn_append, declaredIn_append, declaredIn_opening, declaredIn_filling,
        List.append_nil] at hfree ⊢
      obtain ⟨hname, hinside⟩ := List.forall_mem_cons.1 hfree
      have hperm := ih rfl hliterals hinside
      rw [inside.handsOver_element hliterals hinside] at hperm
      rw [Job.handsOver, List.nil_append, passedIn_append, passedIn_append, passedIn_opening,
        passedIn_filling hname, List.nil_append, ← List.append_assoc]
      exact List.perm_append_comm.trans ((List.perm_append_comm.trans hperm).cons name)
  | done => exact .nil
  | next site property rest result first others ihfirst ihothers =>
    rw [events, declaredIn_append] at hfree ⊢
    obtain ⟨hfirst, hothers⟩ := List.append_subset.1 hliterals
    obtain ⟨hfirstFree, hothersFree⟩ := List.forall_mem_append.1 hfree
    rw [Job.handsOver, List.nil_append, passedIn_append]
    exact (ihfirst rfl hfirst hfirstFree).append (ihothers hresult hothers hothersFree)
  | stop => simp at hresult

theorem passed_declared {name value : String} (course : Course plan sites job before result after)
    (hresult : result = .ok value) (hliterals : course.literals ⊆ literals)
    (hfree : ∀ name ∈ declaredIn course.events, name ∉ literals)
    (hname : name ∈ passedIn literals course.events) : name ∈ declaredIn course.events :=
  (course.passed_perm hresult hliterals hfree).mem_iff.1 (List.mem_append_right _ hname)

theorem not_owner_of_issued {name : String} (course : Course plan sites job before result after)
    (hname : name ∈ before.ledger.issued) (hholders : name ∉ job.holders) :
    name ∉ ownersIn course.events := by
  intro howner
  rcases List.mem_append.1 (course.events_scoped.owner_mem howner) with hholder | hdeclared
  · exact hholders hholder
  · exact course.issued_declared.fresh name hdeclared hname

theorem not_owner_later {first second : Job} {earlier later : Except Failure String}
    {middle : Stock} {name : String} (course : Course plan sites first before earlier middle)
    (next : Course plan sites second middle later after)
    (hholders : second.holders ⊆ before.ledger.issued)
    (hname : name ∈ declaredIn course.events) : name ∉ ownersIn next.events := by
  refine next.not_owner_of_issued (course.issued_declared.issued hname) fun hholder => ?_
  exact course.issued_declared.fresh name hname (hholders hholder)

theorem declared_ne {name : String} (course : Course plan sites job before result after)
    (hname : name ∈ before.ledger.issued) : ∀ other ∈ declaredIn course.events, other ≠ name :=
  fun _ hother => (course.issued_declared.ne_of_issued hname hother).symm

theorem releasing_assignment {target writer name : String} (hname : name ∉ literals)
    (hne : name ≠ target) :
    Releasing literals
      (followUp (.ok name) fun name => [.blank, .call target writer name, .blank]) := by
  refine .of_disjoint ?_
  rw [passedIn_assignment hname]
  exact List.forall_mem_singleton.2 (by simpa [followUp, Event.owner?] using hne)

theorem releasing_filling {collection value target writer : String}
    (hvalue : value ∈ literals ∨ value ≠ collection ∧ value ≠ target) (hne : collection ≠ target) :
    Releasing literals [.append collection value, .call target writer collection, .blank] := by
  have hadding : Releasing literals [.append collection value] := by
    refine .of_disjoint fun name hname => ?_
    obtain ⟨hname, hfree⟩ := (mem_passedIn literals).1 hname
    obtain rfl : name = value := by simpa [Event.argument?] using hname
    simpa [Event.owner?] using (hvalue.resolve_left hfree).1
  have hcall : Releasing literals [.call target writer collection, .blank] := by
    refine .of_disjoint fun name hname => ?_
    obtain rfl : name = collection := by
      simpa [Event.argument?] using ((mem_passedIn literals).1 hname).1
    simpa [Event.owner?] using hne
  refine hadding.append hcall fun name hname => ?_
  obtain ⟨hname, hfree⟩ := (mem_passedIn literals).1 hname
  obtain rfl : name = value := by simpa [Event.argument?] using hname
  simpa [Event.owner?] using (hvalue.resolve_left hfree).2

/-- A job that succeeds acts on no variable once it has passed it on. -/
theorem events_releasing {value : String} (course : Course plan sites job before result after)
    (hresult : result = .ok value) (hliterals : course.literals ⊆ literals)
    (hfree : ∀ name ∈ declaredIn course.events, name ∉ literals)
    (hholders : job.holders ⊆ before.ledger.issued) : Releasing literals course.events := by
  induction course generalizing value with
  | literal => exact .nil
  | simple raw args target result hissue hsimple drawn ih =>
    cases result with
    | error failure => exact .nil
    | ok text => exact .of_disjoint (List.forall_mem_nil _)
  | barred => exact .nil
  | tooDeep => exact .nil
  | composite raw args target owner result hissue hsimple henter hdepth inside ih =>
    have htarget : target ∈ (Ledger.issued _) := (Ledger.Issued.one hissue).issued (by simp)
    have hdeclaration : Releasing literals [Plan.declaration raw args target] :=
      .of_disjoint (by simp [passedIn_declaration])
    have hinside : Releasing literals inside.events :=
      ih hresult hliterals (List.forall_mem_cons.1 hfree).2 (by simpa [Job.holders] using htarget)
    exact hdeclaration.append hinside (by simp [passedIn_declaration])
  | ignored => exact .nil
  | unfit => exact .nil
  | plain site property writer name result hdue hshape hparam drawn ih =>
    cases result with
    | error failure => simp [Site.closing] at hresult
    | ok text =>
      refine .of_disjoint ?_
      rw [events, passedIn_call (hliterals (drawn.literal_mem rfl))]
      exact List.forall_mem_nil _
  | nested site property writer shape raw args result hdue hshape hthrough course ih =>
    cases result with
    | error failure => simp [Site.closing] at hresult
    | ok name =>
      rw [events, declaredIn_append, declaredIn_assignment, List.append_nil] at hfree
      have hapart := course.declared_ne (hholders (List.mem_singleton_self _))
      have hname := course.value_declared
      refine (ih rfl hliterals hfree (List.nil_subset _)).append
        (releasing_assignment (hfree name hname) (hapart name hname)) fun other hother => ?_
      have hdeclared := course.passed_declared rfl hliterals hfree hother
      simpa [followUp, Event.owner?] using hapart other hdeclared
  | collection site property writer kind element name result hdue hshape hissue inside ih =>
    cases result with
    | error failure => simp [Site.closing] at hresult
    | ok value =>
      rw [events, declaredIn_append, declaredIn_append, declaredIn_opening, declaredIn_filling,
        List.append_nil] at hfree
      obtain ⟨hname, hinside⟩ := List.forall_mem_cons.1 hfree
      -- The collection and the holder of the property are issued before the element begins.
      have hissued := Ledger.Issued.one hissue
      have hholder : site.target ∈ (Ledger.issued _) := hholders (List.mem_singleton_self _)
      have hcollection := inside.declared_ne (hissued.issued (List.mem_singleton_self _))
      have htarget := inside.declared_ne (hissued.grows hholder)
      have hopening : Releasing literals
          [.blank, Plan.collectionEvent kind (Name.simple element.rawName) name] :=
        .of_disjoint (by simp [passedIn_opening])
      have helement : Releasing literals inside.events := by
        refine ih rfl hliterals hinside ?_
        rw [Job.holders_elementJob]
        exact List.nil_subset _
      have hfilling : Releasing literals
          [.append name value, .call site.target writer name, .blank] := by
        refine releasing_filling ?_ (hissued.ne_of_issued hholder (List.mem_singleton_self _)).symm
        exact inside.element_declared_or_literal.symm.imp (hliterals ·) fun hvalue =>
          ⟨hcollection value hvalue, htarget value hvalue⟩
      refine (hopening.append helement (by simp [passedIn_opening])).append hfilling ?_
      intro other hother
      rw [passedIn_append, passedIn_opening, List.nil_append] at hother
      have hdeclared := inside.passed_declared rfl hliterals hinside hother
      simp [followUp, Event.owner?, hcollection other hdeclared, htarget other hdeclared]
  | done => exact .nil
  | next site property rest result first others ihfirst ihothers =>
    rw [events, declaredIn_append] at hfree
    obtain ⟨hfirst, hothers⟩ := List.append_subset.1 hliterals
    obtain ⟨hfirstFree, hothersFree⟩ := List.forall_mem_append.1 hfree
    have hissued := List.Subset.trans hholders first.issued_declared.grows
    refine (ihfirst rfl hfirst hfirstFree hholders).append
      (ihothers hresult hothers hothersFree hissued) fun name hname => ?_
    exact first.not_owner_later others hholders (first.passed_declared rfl hfirst hfirstFree hname)
  | stop => simp at hresult

/-- Of the variables that the construction of a value declares, its own is never passed on, and
every other is passed on once. -/
theorem passedOnce_of_value {raw value : String} {args : List Ty}
    (course : Course plan sites (.value raw args) before result after)
    (hresult : result = .ok value)
    (hfree : ∀ name ∈ declaredIn course.events, name ∉ course.literals) :
    value ∉ argumentsIn course.events ∧
      ∀ name ∈ declaredIn course.events, name ≠ value → PassedOnce course.events name := by
  have hperm : (value :: passedIn course.literals course.events).Perm (declaredIn course.events) :=
    course.passed_perm hresult (List.Subset.refl _) hfree
  have hnodup := hperm.nodup_iff.2 course.issued_declared.nodup
  obtain ⟨hvalue, hpassed⟩ := List.nodup_cons.1 hnodup
  have hreleasing := course.events_releasing hresult (List.Subset.refl _) hfree (List.nil_subset _)
  have hroot : value ∈ declaredIn course.events := hperm.mem_iff.1 (List.mem_cons_self ..)
  refine ⟨fun hargument => hvalue ((mem_passedIn _).2 ⟨hargument, hfree value hroot⟩), ?_⟩
  intro name hname hne
  have hmem : name ∈ passedIn course.literals course.events :=
    (List.mem_cons.1 (hperm.mem_iff.2 hname)).resolve_left hne
  constructor
  · have hcount := List.count_eq_one_of_mem hpassed hmem
    have hkept : (fun name => decide (name ∉ course.literals)) name = true := by
      simpa using hfree name hname
    rwa [passedIn, List.count_filter (l := argumentsIn course.events) hkept] at hcount
  · intro earlier event later hevents hargument next hnext
    rw [hevents] at hreleasing
    exact hreleasing.owner_ne hargument (hfree name hname) hnext

end Course

variable (catalog : Catalog) (registry : Registry) (settings : Settings) (supply : Supply)
  (root : String)

/-- The variables of a fixture have names of their own, whether it succeeds or not, and no event
acts on one that is not declared before. When it succeeds, the first is that of the root, which is
never passed on; every other is passed on once, when nothing acts on it any more, as long as no
literal reads like a variable. -/
theorem variables_flow_once :
    let outcome := catalog.fixture registry settings supply root
    (declaredIn outcome.events).Nodup ∧ DeclaredBeforeUse outcome.events ∧
      ∀ value, outcome.result = .ok value →
        (declaredIn outcome.events).head? = some value ∧
        Nonempty (Making catalog registry settings supply root) ∧
        ∀ making : Making catalog registry settings supply root,
          (∀ name ∈ declaredIn outcome.events, name ∉ making.course.literals) →
            value ∉ argumentsIn outcome.events ∧
            ∀ name ∈ declaredIn outcome.events, name ≠ value → PassedOnce outcome.events name := by
  intro outcome
  cases hscope : effectiveScope catalog settings root with
  | error obstacle =>
    have houtcome : outcome = _ := fixture_of_no_scope catalog registry settings supply root hscope
    rw [houtcome]
    refine ⟨List.nodup_nil, ?_, ?_⟩
    · intro earlier event later name hevents
      exact absurd hevents.symm (by simp)
    · intro value hvalue
      exact absurd hvalue (by simp)
  | ok scope =>
    obtain ⟨making, -⟩ := exists_making catalog registry settings supply root hscope
    have hevents : outcome.events = making.course.events := making.events_eq
    refine ⟨?_, ?_, fun value hvalue => ⟨?_, ⟨making⟩, fun making hfree => ?_⟩⟩
    · rw [hevents]
      exact making.course.issued_declared.nodup
    · rw [hevents]
      exact making.course.events_scoped.declaredBeforeUse
    · have hresult := making.result_eq.symm.trans hvalue
      obtain ⟨later, hlater⟩ := making.course.declared_value hresult
      rw [hevents, hlater, List.head?_cons]
    · have hevents : outcome.events = making.course.events := making.events_eq
      have hresult := making.result_eq.symm.trans hvalue
      rw [hevents] at hfree ⊢
      exact making.course.passedOnce_of_value hresult hfree

end Fixture

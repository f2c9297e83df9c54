/-!
# Results that may be errors

How a success of a result that was made from others tells what those were.
-/

namespace Fixture

variable {α β ε : Type}

theorem map_eq_ok {result : Except ε α} {f : α → β} {value : β} (h : result.map f = .ok value) :
    ∃ source, result = .ok source ∧ f source = value := by
  cases result with
  | error e => cases h
  | ok source =>
    cases h
    exact ⟨source, rfl, rfl⟩

theorem map_eq_error {result : Except ε α} {f : α → β} {e : ε} (h : result.map f = .error e) :
    result = .error e := by
  cases result with
  | error e => cases h; rfl
  | ok source => cases h

theorem bind_eq_ok {result : Except ε α} {next : α → Except ε β} {value : β} :
    result.bind next = .ok value ↔ ∃ middle, result = .ok middle ∧ next middle = .ok value := by
  cases result with
  | error e => simp [Except.bind]
  | ok middle => simp [Except.bind]

theorem eq_ok_of_toOption {result : Except ε α} {value : α} (h : result.toOption = some value) :
    result = .ok value := by
  cases result with
  | error e => cases h
  | ok found => exact congrArg _ (Option.some.inj h)

/-- Two results are both values or both errors, and these are related. -/
inductive Matching {γ δ : Type} (errors : ε → δ → Prop) (values : α → γ → Prop) :
    Except ε α → Except δ γ → Prop
  | ok {value : α} {other : γ} (h : values value other) :
      Matching errors values (.ok value) (.ok other)
  | error {failure : ε} {other : δ} (h : errors failure other) :
      Matching errors values (.error failure) (.error other)

section

variable {γ δ : Type} {errors : ε → δ → Prop} {values : α → γ → Prop} {second : Except δ γ}

theorem Matching.exists_ok {value : α} (h : Matching errors values (.ok value) second) :
    ∃ other, second = .ok other ∧ values value other := by
  cases h with
  | ok h => exact ⟨_, rfl, h⟩

theorem Matching.exists_error {failure : ε} (h : Matching errors values (.error failure) second) :
    ∃ other, second = .error other ∧ errors failure other := by
  cases h with
  | error h => exact ⟨_, rfl, h⟩

end

theorem Matching.of_eq {errors : ε → ε → Prop} {values : α → α → Prop} {result other : Except ε α}
    (h : result = other) (herror : ∀ failure, result = .error failure → errors failure failure)
    (hvalue : ∀ value, result = .ok value → values value value) :
    Matching errors values result other := by
  cases h
  cases result with
  | error failure => exact .error (herror failure rfl)
  | ok value => exact .ok (hvalue value rfl)

section

variable {f : α → Except ε β} {source : α} {rest sources : List α} {results : List β}

theorem mapM_cons_eq_ok (h : (source :: rest).mapM f = .ok results) :
    ∃ first others, f source = .ok first ∧ rest.mapM f = .ok others ∧
      results = first :: others := by
  rw [List.mapM_cons] at h
  cases hsource : f source with
  | error e => simp [hsource, bind, Except.bind] at h
  | ok first =>
    cases hrest : rest.mapM f with
    | error e => simp [hsource, hrest, bind, Except.bind] at h
    | ok others =>
      simp only [hsource, hrest, bind, Except.bind, pure, Except.pure, Except.ok.injEq] at h
      exact ⟨first, others, rfl, rfl, h.symm⟩

theorem length_of_mapM (h : sources.mapM f = .ok results) : results.length = sources.length := by
  induction sources generalizing results with
  | nil =>
    cases h
    rfl
  | cons source rest ih =>
    obtain ⟨first, others, -, hrest, rfl⟩ := mapM_cons_eq_ok h
    rw [List.length_cons, List.length_cons, ih hrest]

theorem exists_of_mem_mapM (h : sources.mapM f = .ok results) {result : β}
    (hresult : result ∈ results) : ∃ source ∈ sources, f source = .ok result := by
  induction sources generalizing results with
  | nil =>
    cases h
    cases hresult
  | cons source rest ih =>
    obtain ⟨first, others, hsource, hrest, rfl⟩ := mapM_cons_eq_ok h
    rcases List.mem_cons.1 hresult with rfl | hmem
    · exact ⟨source, List.mem_cons_self .., hsource⟩
    · obtain ⟨other, hother, heq⟩ := ih hrest hmem
      exact ⟨other, List.mem_cons_of_mem _ hother, heq⟩

theorem getElem?_of_mapM {position : Nat} (h : sources.mapM f = .ok results)
    (hsource : sources[position]? = some source) :
    ∃ result, f source = .ok result ∧ results[position]? = some result := by
  induction sources generalizing results position with
  | nil => cases hsource
  | cons head rest ih =>
    obtain ⟨first, others, hfirst, hrest, rfl⟩ := mapM_cons_eq_ok h
    cases position with
    | zero =>
      cases hsource
      exact ⟨first, hfirst, rfl⟩
    | succ position =>
      obtain ⟨result, hresult, hposition⟩ := ih hrest hsource
      exact ⟨result, hresult, hposition⟩

theorem exists_of_mapM_error {e : ε} (h : sources.mapM f = .error e) :
    ∃ source ∈ sources, f source = .error e := by
  induction sources with
  | nil => cases h
  | cons source rest ih =>
    rw [List.mapM_cons] at h
    cases hsource : f source with
    | error other =>
      simp only [hsource, bind, Except.bind, Except.error.injEq] at h
      exact ⟨source, List.mem_cons_self .., h ▸ hsource⟩
    | ok first =>
      cases hrest : rest.mapM f with
      | error other =>
        simp only [hsource, hrest, bind, Except.bind, Except.error.injEq] at h
        obtain ⟨failed, hfailed, heq⟩ := ih (h ▸ hrest)
        exact ⟨failed, List.mem_cons_of_mem _ hfailed, heq⟩
      | ok others => simp [hsource, hrest, bind, Except.bind, pure, Except.pure] at h

theorem exists_mapM (h : ∀ source ∈ sources, ∃ result, f source = .ok result) :
    ∃ results, sources.mapM f = .ok results := by
  cases hall : sources.mapM f with
  | ok results => exact ⟨results, rfl⟩
  | error e =>
    obtain ⟨source, hsource, herror⟩ := exists_of_mapM_error hall
    obtain ⟨result, hresult⟩ := h source hsource
    rw [hresult] at herror
    cases herror

theorem mapM_append_eq_ok {first second : List α} : (first ++ second).mapM f = .ok results ↔
    ∃ firsts seconds, first.mapM f = .ok firsts ∧ second.mapM f = .ok seconds ∧
      results = firsts ++ seconds := by
  rw [List.mapM_append]
  cases first.mapM f with
  | error e => simp [bind, Except.bind]
  | ok firsts =>
    cases second.mapM f with
    | error e => simp [bind, Except.bind]
    | ok seconds => simp [bind, Except.bind, pure, Except.pure, eq_comm]

theorem mapM_mapError {δ : Type} {second : α → Except δ β} {reword : ε → δ}
    (h : ∀ source ∈ sources, second source = (f source).mapError reword) :
    sources.mapM second = (sources.mapM f).mapError reword := by
  induction sources with
  | nil => rfl
  | cons source rest ih =>
    obtain ⟨hsource, hrest⟩ := List.forall_mem_cons.1 h
    rw [List.mapM_cons, List.mapM_cons, hsource, ih hrest]
    cases f source with
    | error e => rfl
    | ok first => cases rest.mapM f <;> rfl

theorem map_mapM {γ : Type} {look : β → γ} {seen : α → Except ε γ}
    (h : ∀ source ∈ sources, (f source).map look = seen source) :
    (sources.mapM f).map (List.map look) = sources.mapM seen := by
  induction sources with
  | nil => rfl
  | cons source rest ih =>
    obtain ⟨hsource, hrest⟩ := List.forall_mem_cons.1 h
    rw [List.mapM_cons, List.mapM_cons, ← hsource, ← ih hrest]
    cases f source with
    | error e => rfl
    | ok first => cases rest.mapM f <;> rfl

theorem mapM_map_congr {γ : Type} {look : β → γ} {second : α → Except ε β}
    (h : ∀ source ∈ sources, (second source).map look = (f source).map look) :
    (sources.mapM second).map (List.map look) = (sources.mapM f).map (List.map look) := by
  rw [map_mapM h, map_mapM fun _ _ => rfl]

/-- Two ways one behind the other are one way, if the second never fails behind the first. -/
theorem mapM_bind_mapM {γ : Type} {next : β → Except ε γ} {both : α → Except ε γ}
    (h : ∀ source ∈ sources, (f source).bind next = both source)
    (hnext : ∀ source ∈ sources, ∀ middle, f source = .ok middle → ∃ last, next middle = .ok last) :
    (sources.mapM f).bind (List.mapM next) = sources.mapM both := by
  induction sources with
  | nil => rfl
  | cons source rest ih =>
    obtain ⟨hsource, hrest⟩ := List.forall_mem_cons.1 h
    obtain ⟨hfirst, hothers⟩ := List.forall_mem_cons.1 hnext
    rw [List.mapM_cons, List.mapM_cons, ← hsource, ← ih hrest hothers]
    cases hmiddle : f source with
    | error e => rfl
    | ok middle =>
      obtain ⟨last, hlast⟩ := hfirst middle hmiddle
      cases rest.mapM f with
      | error e => simp [bind, Except.bind, hlast]
      | ok middles => simp [bind, Except.bind, pure, Except.pure, List.mapM_cons, hlast]

theorem eq_of_mapM {f : α → Except ε α} {results : List α} (h : sources.mapM f = .ok results)
    (hsame : ∀ source ∈ sources, ∀ result, f source = .ok result → result = source) :
    results = sources := by
  induction sources generalizing results with
  | nil =>
    cases h
    rfl
  | cons source rest ih =>
    obtain ⟨first, others, hfirst, hrest, rfl⟩ := mapM_cons_eq_ok h
    obtain ⟨hsource, hsame⟩ := List.forall_mem_cons.1 hsame
    rw [hsource first hfirst, ih hrest hsame]

end

end Fixture

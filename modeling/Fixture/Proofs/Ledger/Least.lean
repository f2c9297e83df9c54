import Fixture.Proofs.Ledger
import Mathlib.Order.Bounds.Defs

/-!
# The least free name

A search does not begin with the base but where the last search for the same base ended. Nothing is
missed by that: what was passed over then had been issued, for this base or for another one, and an
issued name stays issued. So the name is the one that a search from the beginning would find.
-/

namespace Fixture.Ledger

/-- The rounds of a search that begins with some candidate: one for every candidate that has been
issued, and one for the first that has not. -/
inductive Search (issued : List String) (base : String) : (start rounds number : Nat) → Prop
  | found {start : Nat} (hfree : candidate base start ∉ issued) : Search issued base start 1 start
  | passed {start rounds number : Nat} (hissued : candidate base start ∈ issued)
      (rest : Search issued base (start + 1) rounds number) :
      Search issued base start (rounds + 1) number

/-- What counts as tried has been issued. -/
def Counted (ledger : Ledger) : Prop :=
  ∀ base number, number < ledger.triedOf base → candidate base number ∈ ledger.issued

/-- The names for bases, one after the other, and the ledger behind them. -/
def issueAll (ledger : Ledger) : List String → List String × Ledger
  | [] => ([], ledger)
  | base :: rest =>
    let (name, next) := ledger.issue base
    let (names, last) := next.issueAll rest
    (name :: names, last)

variable {ledger : Ledger} {issued : List String} {base : String} {start rounds number : Nat}

/-! ### One search -/

theorem Search.not_mem (h : Search issued base start rounds number) :
    candidate base number ∉ issued := by
  induction h with
  | found hfree => exact hfree
  | passed _ _ ih => exact ih

theorem Search.mem_of_lt (h : Search issued base start rounds number) {tried : Nat}
    (hle : start ≤ tried) (hlt : tried < number) : candidate base tried ∈ issued := by
  induction h with
  | found => omega
  | passed hissued _ ih =>
    rcases Nat.eq_or_lt_of_le hle with rfl | hlater
    · exact hissued
    · exact ih hlater hlt

theorem Search.add_rounds (h : Search issued base start rounds number) :
    start + rounds = number + 1 := by
  induction h with
  | found => rfl
  | passed _ _ ih => omega

/-- The bounded search is the search, with no more rounds than its bound allows, where its end is
free. -/
theorem exists_search_of_free (issued : List String) (base : String) (steps start : Nat)
    (hfree : candidate base (firstFree issued base steps start) ∉ issued) :
    ∃ rounds ≤ steps + 1, Search issued base start rounds (firstFree issued base steps start) := by
  induction steps generalizing start with
  | zero => exact ⟨1, Nat.le_refl 1, .found hfree⟩
  | succ steps ih =>
    by_cases hissued : candidate base start ∈ issued
    · rw [firstFree_of_mem hissued] at hfree ⊢
      obtain ⟨rounds, hrounds, hsearch⟩ := ih (start + 1) hfree
      exact ⟨rounds + 1, Nat.succ_le_succ hrounds, .passed hissued hsearch⟩
    · rw [firstFree_of_not_mem hissued]
      exact ⟨1, Nat.le_add_left 1 _, .found hissued⟩

/-- A search always ends: the candidates are all different, and only so many names are issued. -/
theorem exists_search (issued : List String) (base : String) (start : Nat) :
    ∃ rounds ≤ issued.length + 1,
      Search issued base start rounds (firstFree issued base issued.length start) :=
  exists_search_of_free issued base issued.length start
    (candidate_firstFree_not_mem issued base start)

/-! ### One name -/

theorem counted_fresh : Counted {} := by
  intro base number hnumber
  exact absurd hnumber (Nat.not_lt_zero number)

theorem Counted.mem_of_lt (h : ledger.Counted)
    (hsearch : Search ledger.issued base (ledger.triedOf base) rounds number) {tried : Nat}
    (hlt : tried < number) : candidate base tried ∈ ledger.issued := by
  rcases Nat.lt_or_ge tried (ledger.triedOf base) with hbefore | hafter
  · exact h base tried hbefore
  · exact hsearch.mem_of_lt hafter hlt

theorem Counted.issue (h : ledger.Counted) (base : String) : (ledger.issue base).2.Counted := by
  intro other number hnumber
  rw [triedOf_issue] at hnumber
  rw [issued_issue]
  split at hnumber
  · next heq =>
    subst heq
    obtain ⟨rounds, -, hsearch⟩ := exists_search ledger.issued other (ledger.triedOf other)
    rcases Nat.lt_succ_iff_lt_or_eq.1 hnumber with hlt | rfl
    · exact List.mem_cons_of_mem _ (h.mem_of_lt hsearch hlt)
    · exact List.mem_cons_self
  · exact List.mem_cons_of_mem _ (h other number hnumber)

theorem Counted.isLeast (h : ledger.Counted)
    (hsearch : Search ledger.issued base (ledger.triedOf base) rounds number) :
    IsLeast {other | candidate base other ∉ ledger.issued} number := by
  refine ⟨hsearch.not_mem, fun other hother => ?_⟩
  by_contra hlt
  exact hother (h.mem_of_lt hsearch (Nat.lt_of_not_le hlt))

/-! ### Names one after the other -/

theorem Counted.issueAll (h : ledger.Counted) (bases : List String) :
    (ledger.issueAll bases).2.Counted := by
  induction bases generalizing ledger with
  | nil => exact h
  | cons base rest ih => exact ih (h.issue base)

theorem issued_issueAll (ledger : Ledger) (bases : List String) :
    (ledger.issueAll bases).2.issued = (ledger.issueAll bases).1.reverse ++ ledger.issued := by
  induction bases generalizing ledger with
  | nil => rfl
  | cons base rest ih =>
    show ((ledger.issue base).2.issueAll rest).2.issued =
      ((ledger.issue base).1 :: ((ledger.issue base).2.issueAll rest).1).reverse ++ ledger.issued
    rw [ih, issued_issue, List.reverse_cons, List.append_assoc, List.singleton_append]

theorem issueAll_concat (ledger : Ledger) (bases : List String) (base : String) :
    (ledger.issueAll (bases ++ [base])).1 =
      (ledger.issueAll bases).1 ++ [((ledger.issueAll bases).2.issue base).1] := by
  induction bases generalizing ledger with
  | nil => rfl
  | cons first rest ih => exact congrArg ((ledger.issue first).1 :: ·) (ih (ledger.issue first).2)

/-- Whatever names a ledger has issued since it was fresh, the next name is the first candidate of
its base that is not among them. It is found in no more rounds than one more than there are names,
and each round counts one more candidate of the base as tried. -/
theorem issueAll_least (bases : List String) (base : String) :
    let names := (issueAll {} bases).1
    let ledger := (issueAll {} bases).2
    ∃ number rounds, (issueAll {} (bases ++ [base])).1 = names ++ [candidate base number] ∧
      IsLeast {other | candidate base other ∉ names} number ∧
      Search ledger.issued base (ledger.triedOf base) rounds number ∧
      rounds ≤ names.length + 1 ∧
      (ledger.issue base).2.triedOf base = ledger.triedOf base + rounds := by
  intro names ledger
  have hcounted : ledger.Counted := counted_fresh.issueAll bases
  have hissued : ledger.issued = names.reverse := by
    rw [issued_issueAll]
    exact List.append_nil _
  obtain ⟨rounds, hrounds, hsearch⟩ := exists_search ledger.issued base (ledger.triedOf base)
  have hcount := triedOf_issue ledger base base
  rw [if_pos rfl, ← hsearch.add_rounds] at hcount
  generalize hnumber : firstFree ledger.issued base ledger.issued.length (ledger.triedOf base) =
    number at hsearch
  have hname : (ledger.issue base).1 = candidate base number := congrArg (candidate base) hnumber
  have hleast := hcounted.isLeast hsearch
  simp only [hissued, List.mem_reverse] at hleast
  rw [hissued, List.length_reverse] at hrounds
  exact ⟨number, rounds, hname ▸ issueAll_concat {} bases base, hleast, hsearch, hrounds,
    hcount⟩

/-- Names of one base may be in the way of another. -/
example : (issueAll {} ["foo1", "foo", "foo", "foo1", ""]).1 =
    ["foo1", "foo", "foo2", "foo11", ""] := by decide

end Fixture.Ledger

import Fixture.Ledger
import Mathlib.Data.List.Nodup
import Mathlib.Data.List.Perm.Subperm
import Std.Data.String.ToNat

/-!
# Issued names are new

What everything else knows about the ledger of variable names: a name that it issues has not been
issued before, and from then on it is among the issued names. The bound on the search is never what
ends it. The candidates of a base are all different, so one more than there are issued names cannot
all have been issued.
-/

namespace Fixture.Ledger

theorem candidate_injective (base : String) : Function.Injective (candidate base) := by
  intro left right h
  cases left with
  | zero =>
    cases right with
    | zero => rfl
    | succ right =>
      have hempty : "" = Nat.repr (right + 1) :=
        (String.append_right_inj base).1 (String.append_empty.trans h)
      exact absurd hempty.symm (by simp)
  | succ left =>
    cases right with
    | zero =>
      have hempty : Nat.repr (left + 1) = "" :=
        (String.append_right_inj base).1 (Eq.trans h String.append_empty.symm)
      exact absurd hempty (by simp)
    | succ right => exact Nat.repr_injective ((String.append_right_inj base).1 h)

theorem firstFree_of_mem {issued : List String} {base : String} {number : Nat}
    (h : candidate base number ∈ issued) (steps : Nat) :
    firstFree issued base (steps + 1) number = firstFree issued base steps (number + 1) := by
  rw [firstFree, if_pos (List.contains_iff_mem.2 h)]

theorem firstFree_of_not_mem {issued : List String} {base : String} {number : Nat}
    (h : candidate base number ∉ issued) (steps : Nat) :
    firstFree issued base (steps + 1) number = number := by
  rw [firstFree, if_neg (mt List.contains_iff_mem.1 h)]

/-- The search stops at a free candidate, or it has passed over as many issued ones as it was
allowed to try. -/
theorem firstFree_free_or_exhausted (issued : List String) (base : String) (steps number : Nat) :
    candidate base (firstFree issued base steps number) ∉ issued ∨
      firstFree issued base steps number = number + steps ∧
        ∀ tried, number ≤ tried → tried < number + steps → candidate base tried ∈ issued := by
  induction steps generalizing number with
  | zero => exact .inr ⟨rfl, fun tried hle hlt => by omega⟩
  | succ steps ih =>
    by_cases hissued : candidate base number ∈ issued
    · rw [firstFree_of_mem hissued]
      refine (ih (number + 1)).imp_right fun ⟨hend, hpassed⟩ => ⟨by omega, ?_⟩
      intro tried hle hlt
      rcases Nat.eq_or_lt_of_le hle with rfl | hlater
      · exact hissued
      · exact hpassed tried hlater (by omega)
    · rw [firstFree_of_not_mem hissued]
      exact .inl hissued

theorem candidate_firstFree_not_mem (issued : List String) (base : String) (number : Nat) :
    candidate base (firstFree issued base issued.length number) ∉ issued := by
  rcases firstFree_free_or_exhausted issued base issued.length number with hfree | ⟨hend, hpassed⟩
  · exact hfree
  · intro hlast
    let candidates :=
      (List.range (issued.length + 1)).map fun step => candidate base (number + step)
    have hnodup : candidates.Nodup :=
      List.nodup_range.map ((candidate_injective base).comp fun _ _ => Nat.add_left_cancel)
    have hsubset : candidates ⊆ issued := by
      intro name hname
      obtain ⟨step, hstep, rfl⟩ := List.mem_map.1 hname
      have hstep := List.mem_range.1 hstep
      rcases Nat.lt_succ_iff_lt_or_eq.1 hstep with hlt | rfl
      · exact hpassed _ (by omega) (by omega)
      · exact hend ▸ hlast
    have hlength := (hnodup.subperm hsubset).length_le
    simp only [candidates, List.length_map, List.length_range] at hlength
    omega

variable (ledger : Ledger) (base : String)

theorem issue_fresh : (issue {} base).1 = base := rfl

theorem issue_not_mem : (ledger.issue base).1 ∉ ledger.issued :=
  candidate_firstFree_not_mem ledger.issued base (ledger.triedOf base)

@[simp] theorem issued_issue :
    (ledger.issue base).2.issued = (ledger.issue base).1 :: ledger.issued := rfl

/-- Names that were issued between two states of the ledger, each of them once. -/
structure Issued (before after : Ledger) (names : List String) : Prop where
  grows : before.issued ⊆ after.issued
  nodup : names.Nodup
  issued : names ⊆ after.issued
  fresh : ∀ name ∈ names, name ∉ before.issued

namespace Issued

variable {before middle after : Ledger} {names more : List String}

theorem none (ledger : Ledger) : Issued ledger ledger [] :=
  ⟨List.Subset.refl _, List.nodup_nil, List.nil_subset _, by simp⟩

theorem one {ledger : Ledger} {base name : String} {next : Ledger}
    (h : ledger.issue base = (name, next)) : Issued ledger next [name] := by
  obtain ⟨rfl, rfl⟩ : (ledger.issue base).1 = name ∧ (ledger.issue base).2 = next := by
    rw [h]
    exact ⟨rfl, rfl⟩
  refine ⟨?_, List.nodup_singleton _, ?_, ?_⟩
  · rw [issued_issue]
    exact List.subset_cons_self _ _
  · simp
  · simpa using issue_not_mem ledger base

theorem append (first : Issued before middle names) (second : Issued middle after more) :
    Issued before after (names ++ more) where
  grows := List.Subset.trans first.grows second.grows
  nodup := List.nodup_append.2 ⟨first.nodup, second.nodup, fun _ hname other hother heq =>
    second.fresh other hother (first.issued (heq ▸ hname))⟩
  issued := List.append_subset.2 ⟨List.Subset.trans first.issued second.grows, second.issued⟩
  fresh := fun name hname => (List.mem_append.1 hname).elim (first.fresh name)
    fun hmore hbefore => second.fresh name hmore (first.grows hbefore)

theorem sublist (h : Issued before after names) (hsublist : more.Sublist names) :
    Issued before after more :=
  ⟨h.grows, h.nodup.sublist hsublist, List.Subset.trans hsublist.subset h.issued,
    fun name hname => h.fresh name (hsublist.subset hname)⟩

theorem ne_of_issued {name other : String} (h : Issued before after names)
    (hname : name ∈ before.issued) (hother : other ∈ names) : name ≠ other :=
  fun heq => h.fresh other hother (heq ▸ hname)

end Issued

end Fixture.Ledger

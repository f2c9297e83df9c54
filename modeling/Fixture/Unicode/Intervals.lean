/-!
# Sets of characters

A class of characters is written down as its intervals of code points, in ascending order. The
search stops at the first interval that begins above the character asked for, so the common letters
at the front of every table are found at once.
-/

namespace Fixture.Unicode

/-- Closed intervals of code points, ascending and apart. -/
abbrev Intervals := List (Nat × Nat)

namespace Intervals

def covers : Intervals → Nat → Bool
  | [], _ => false
  | (first, last) :: rest, point =>
    if point < first then false else point ≤ last || covers rest point

/-- A covered point lies in one of the intervals. -/
theorem exists_of_covers {table : Intervals} {point : Nat} (h : table.covers point = true) :
    ∃ interval ∈ table, interval.1 ≤ point ∧ point ≤ interval.2 := by
  induction table with
  | nil => simp [covers] at h
  | cons interval rest ih =>
    obtain ⟨first, last⟩ := interval
    simp only [covers] at h
    split at h
    · simp at h
    · rcases Bool.or_eq_true _ _ |>.mp h with hin | hrest
      · exact ⟨(first, last), by simp, by omega, by simpa using hin⟩
      · obtain ⟨found, hmem, hbounds⟩ := ih hrest
        exact ⟨found, by simp [hmem], hbounds⟩

end Intervals

end Fixture.Unicode

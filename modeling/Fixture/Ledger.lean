/-!
# Names of variables

A ledger issues variable names: the base itself first, then the base with 1, 2 and so on. Names of
different bases can meet, so a name that has been issued is passed over. For every base the ledger
remembers how many of its names need not be tried again.
-/

namespace Fixture

structure Ledger where
  /-- For each base, how many of its names have been tried. -/
  tried : List (String × Nat) := []
  /-- The names in the order in which they were issued, the latest first. -/
  issued : List String := []

namespace Ledger

/-- The names of a base in the order in which they are tried. -/
def candidate (base : String) : Nat → String
  | 0 => base
  | number => base ++ Nat.repr number

def triedOf (self : Ledger) (base : String) : Nat := (self.tried.lookup base).getD 0

/-- The number of the first candidate from a number on that has not been issued, if there is one
within so many steps; otherwise the number behind them. -/
def firstFree (issued : List String) (base : String) : (steps number : Nat) → Nat
  | 0, number => number
  | steps + 1, number =>
    if issued.contains (candidate base number) then firstFree issued base steps (number + 1)
    else number

private def setTried (base : String) (count : Nat) : List (String × Nat) → List (String × Nat)
  | [] => [(base, count)]
  | entry :: rest =>
    if entry.1 == base then (base, count) :: rest else entry :: setTried base count rest

private theorem lookup_setTried (base other : String) (count : Nat) (tried : List (String × Nat)) :
    (setTried base count tried).lookup other =
      if other = base then some count else tried.lookup other := by
  induction tried with
  | nil => by_cases h : other = base <;> simp [setTried, h]
  | cons entry rest ih =>
    obtain ⟨key, number⟩ := entry
    by_cases hkey : key = base
    · subst hkey
      by_cases h : other = key
      · simp [setTried, h]
      · simp [setTried, List.lookup_cons, beq_false_of_ne h, h]
    · have hkept : setTried base count ((key, number) :: rest) =
          (key, number) :: setTried base count rest := by simp [setTried, hkey]
      rw [hkept, List.lookup_cons, List.lookup_cons, ih]
      by_cases h : other = key
      · simp [h, hkey]
      · simp [beq_false_of_ne h]

/-- Issues a name for a base. One more candidate than there are issued names is always enough. -/
def issue (self : Ledger) (base : String) : String × Ledger :=
  let number := firstFree self.issued base self.issued.length (self.triedOf base)
  let name := candidate base number
  (name, ⟨setTried base (number + 1) self.tried, name :: self.issued⟩)

/-- All names up to the issued one count as tried, for this base and for no other. -/
theorem triedOf_issue (self : Ledger) (base other : String) :
    (self.issue base).2.triedOf other =
      if other = base then firstFree self.issued base self.issued.length (self.triedOf base) + 1
      else self.triedOf other := by
  rw [triedOf, issue, lookup_setTried]
  split
  · rfl
  · rfl

end Ledger

end Fixture

import Fixture.Ty.Parser

/-!
# What the reader of type expressions takes from a text

The reader hands on what is left of a text together with the proof that it is shorter. Here only the
text that is left is told: what is read, in one equivalence for each of the parts of the reader, and
from nothing but the text.
-/

namespace Fixture.Ty.Parser

/-- A name is read from the text, and this is left. -/
def Names (text : List Char) (raw : String) (left : List Char) : Prop :=
  ∃ rest, name text = .ok (raw, rest) ∧ rest.1 = left

/-- A type is read from the text, and this is left. -/
def Reads (text : List Char) (ty : Ty) (left : List Char) : Prop :=
  ∃ rest, expression text = .ok (ty, rest) ∧ rest.1 = left

/-- The further arguments are read from the text, and this is left. -/
def ReadsAll (text : List Char) (args : List Ty) (left : List Char) : Prop :=
  ∃ rest, arguments text = .ok (args, rest) ∧ rest.1 = left

variable {text left : List Char} {raw : String} {ty : Ty} {args : List Ty}

theorem Names.length_lt (h : Names text raw left) : left.length < text.length := by
  obtain ⟨rest, -, rfl⟩ := h
  exact rest.2

theorem Reads.length_lt (h : Reads text ty left) : left.length < text.length := by
  obtain ⟨rest, -, rfl⟩ := h
  exact rest.2

theorem length_of_skipSpace {first : Char} {inner : List Char}
    (h : skipSpace text = first :: inner) : inner.length < text.length := by
  have hle := length_skipSpace_le text
  rw [h, List.length_cons] at hle
  omega

theorem names_iff : Names text raw left ↔
    ∃ first others, skipSpace text = first :: others ∧ isNameStart first = true ∧
      wellDotted (first :: others.takeWhile isNamePart) = true ∧
      raw = String.ofList (first :: others.takeWhile isNamePart) ∧
      left = others.dropWhile isNamePart := by
  constructor
  · rintro ⟨rest, hname, rfl⟩
    unfold name at hname
    split at hname
    · cases hname
    · next first others hskip =>
      split at hname
      · next hstart =>
        dsimp only at hname
        split at hname
        · next hdotted =>
          cases hname
          exact ⟨first, others, hskip, hstart, hdotted, rfl, rfl⟩
        · cases hname
      · cases hname
  · rintro ⟨first, others, hskip, hstart, hdotted, rfl, rfl⟩
    unfold Names name
    split
    · next hnil =>
      rw [hnil] at hskip
      cases hskip
    · next hcons =>
      obtain ⟨rfl, rfl⟩ := List.cons.inj (hcons.symm.trans hskip)
      rw [if_pos hstart]
      dsimp only
      rw [if_pos hdotted]
      exact ⟨_, rfl, rfl⟩

theorem reads_iff : Reads text ty left ↔
    ∃ raw rest, Names text raw rest ∧
      (((∀ inner, skipSpace rest ≠ '<' :: inner) ∧ ty = .named raw ∧ left = rest) ∨
        ∃ inner first middle others, skipSpace rest = '<' :: inner ∧ Reads inner first middle ∧
          ReadsAll middle others ('>' :: left) ∧ ty = .applied raw (first :: others)) := by
  constructor
  · rintro ⟨rest, hread, rfl⟩
    unfold expression at hread
    split at hread
    · cases hread
    · next raw after hafter hname =>
      refine ⟨raw, after, ⟨_, hname, rfl⟩, ?_⟩
      split at hread
      · next inner hskip =>
        split at hread
        · cases hread
        · next first middle hmiddle hfirst =>
          split at hread
          · cases hread
          · next others last hlast hothers =>
            split at hread
            · next hclosing =>
              cases hread
              refine .inr ⟨inner, first, middle, others, hskip, ⟨_, hfirst, rfl⟩, ?_, rfl⟩
              obtain ⟨after, hafter⟩ := List.head?_eq_some_iff.1 hclosing
              subst hafter
              exact ⟨_, hothers, rfl⟩
            · cases hread
      · next hplain =>
        cases hread
        exact .inl ⟨hplain, rfl, rfl⟩
  · rintro ⟨raw, after, ⟨⟨_, hafter⟩, hname, rfl⟩, hcases⟩
    unfold Reads expression
    rw [hname]
    dsimp only at hcases ⊢
    rcases hcases with ⟨hplain, rfl, rfl⟩ | ⟨inner, first, _, others, hskip, hfirst, hothers, rfl⟩
    · split
      · next hskip => exact absurd hskip (hplain _)
      · exact ⟨_, rfl, rfl⟩
    · obtain ⟨⟨middle, hmiddle⟩, hfirst, rfl⟩ := hfirst
      obtain ⟨⟨last, hlast⟩, hothers, rfl⟩ := hothers
      split
      · next hopening =>
        obtain ⟨-, rfl⟩ := List.cons.inj (hopening.symm.trans hskip)
        rw [hfirst]
        dsimp only
        rw [hothers]
        exact ⟨_, rfl, rfl⟩
      · next hplain => exact absurd hskip (hplain _)

theorem readsAll_iff : ReadsAll text args left ↔
    ((∀ after, skipSpace text ≠ ',' :: after) ∧ args = [] ∧ left = skipSpace text) ∨
      ∃ after next middle others, skipSpace text = ',' :: after ∧ Reads after next middle ∧
        ReadsAll middle others left ∧ args = next :: others := by
  constructor
  · rintro ⟨rest, hread, rfl⟩
    unfold arguments at hread
    split at hread
    · next after hskip =>
      split at hread
      · cases hread
      · next next middle hmiddle hnext =>
        split at hread
        · cases hread
        · next others last hlast hothers =>
          cases hread
          exact .inr ⟨after, next, middle, others, hskip, ⟨_, hnext, rfl⟩, ⟨_, hothers, rfl⟩, rfl⟩
    · next hnone =>
      cases hread
      exact .inl ⟨hnone, rfl, rfl⟩
  · rintro (⟨hnone, rfl, rfl⟩ | ⟨after, next, _, others, hskip, hnext, hothers, rfl⟩)
    · unfold ReadsAll arguments
      split
      · next hskip => exact absurd hskip (hnone _)
      · exact ⟨_, rfl, rfl⟩
    · obtain ⟨⟨middle, hmiddle⟩, hnext, rfl⟩ := hnext
      obtain ⟨⟨last, hlast⟩, hothers, rfl⟩ := hothers
      unfold ReadsAll arguments
      split
      · next hcomma =>
        obtain ⟨-, rfl⟩ := List.cons.inj (hcomma.symm.trans hskip)
        rw [hnext]
        dsimp only
        rw [hothers]
        exact ⟨_, rfl, rfl⟩
      · next hnone => exact absurd hskip (hnone _)

end Fixture.Ty.Parser

namespace Fixture.Ty

theorem parse_ok_iff {text : String} {ty : Ty} : parse text = .ok ty ↔
    ∃ left, Parser.Reads text.toList ty left ∧ Parser.skipSpace left = [] := by
  constructor
  · intro h
    unfold parse at h
    split at h
    · cases h
    · cases h
    · cases h
    · next hread =>
      split at h
      · next hnone =>
        cases h
        exact ⟨_, ⟨_, hread, rfl⟩, hnone⟩
      · cases h
  · rintro ⟨_, ⟨⟨left, hleft⟩, hread, rfl⟩, hnone⟩
    unfold parse
    rw [hread]
    dsimp only
    dsimp only at hnone
    rw [hnone]

end Fixture.Ty

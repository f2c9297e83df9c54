import Fixture.Plan

/-!
# Scopes

A scope holds the modules whose segments begin with all of its own. So a scope that encloses another
one holds whatever that one holds.
-/

namespace Fixture

theorem intercalate_append {separator : List Char} {first second : List (List Char)}
    (hfirst : first ≠ []) (hsecond : second ≠ []) :
    separator.intercalate (first ++ second) =
      separator.intercalate first ++ separator ++ separator.intercalate second := by
  induction first with
  | nil => exact absurd rfl hfirst
  | cons segment rest ih =>
    by_cases hrest : rest = []
    · subst hrest
      rw [List.singleton_append, List.intercalate_cons_of_ne_nil hsecond,
        List.intercalate_singleton]
    · rw [List.cons_append, List.intercalate_cons_of_ne_nil (by simp [hrest]), ih hrest,
        List.intercalate_cons_of_ne_nil hrest]
      simp only [List.append_assoc]

namespace Name

/-- The parts of a name between its dots. -/
def segments (name : String) : List (List Char) := name.toList.splitOn '.'

/-- The segments of a module begin with all segments of another one; the empty name has none. -/
def Encloses (outer inner : String) : Prop := outer = "" ∨ segments outer <+: segments inner

theorem segments_ne_nil (name : String) : segments name ≠ [] := List.splitOn_ne_nil _ _

theorem intercalate_segments (name : String) : ['.'].intercalate (segments name) = name.toList :=
  List.intercalate_splitOn _

theorem segments_injective : Function.Injective segments := by
  intro first second h
  have htext := congrArg (List.intercalate ['.']) h
  rw [intercalate_segments, intercalate_segments] at htext
  exact String.toList_inj.1 htext

theorem segments_join (first rest : String) :
    segments (first ++ "." ++ rest) = segments first ++ segments rest := by
  have htext : (first ++ "." ++ rest).toList = first.toList ++ '.' :: rest.toList := by simp
  rw [segments, htext, List.splitOn_append_cons_self]
  rfl

theorem segments_prefix_iff {outer inner : String} :
    segments outer <+: segments inner ↔
      inner = outer ∨ ∃ rest, inner = outer ++ "." ++ rest := by
  constructor
  · rintro ⟨more, hmore⟩
    by_cases hnone : more = []
    · rw [hnone, List.append_nil] at hmore
      exact .inl (segments_injective hmore.symm)
    · refine .inr ⟨String.ofList (['.'].intercalate more), String.toList_inj.1 ?_⟩
      have htext := congrArg (List.intercalate ['.']) hmore
      rw [intercalate_append (segments_ne_nil outer) hnone, intercalate_segments,
        intercalate_segments] at htext
      rw [← htext]
      simp
  · rintro (rfl | ⟨rest, rfl⟩)
    · exact List.prefix_refl _
    · exact ⟨_, (segments_join outer rest).symm⟩

theorem Encloses.refl (module : String) : Encloses module module := .inr (List.prefix_refl _)

theorem Encloses.trans {outer middle inner : String} (houter : Encloses outer middle)
    (hmiddle : Encloses middle inner) : Encloses outer inner := by
  rcases houter with hnone | houter
  · exact .inl hnone
  · rcases hmiddle with rfl | hmiddle
    · -- The empty text splits into one empty segment, so only the empty name is a part of it.
      rcases segments_prefix_iff.1 houter with heq | ⟨rest, heq⟩
      · exact .inl heq.symm
      · have hlength := congrArg String.length heq
        simp only [String.length_append] at hlength
        have hdot : ".".length = 1 := rfl
        have hempty : "".length = 0 := rfl
        omega
    · exact .inr (houter.trans hmiddle)

end Name

theorem Plan.inScope_iff {scope module : String} :
    inScope scope module = true ↔ Name.Encloses scope module := by
  have hdotted : (scope ++ ".").toList.isPrefixOf module.toList = true ↔
      ∃ rest, module = scope ++ "." ++ rest := by
    rw [List.isPrefixOf_iff_prefix]
    constructor
    · rintro ⟨rest, hrest⟩
      refine ⟨String.ofList rest, String.toList_inj.1 ?_⟩
      rw [String.toList_append, String.toList_ofList, hrest]
    · rintro ⟨rest, rfl⟩
      rw [String.toList_append (s := scope ++ ".")]
      exact List.prefix_append _ _
  rw [inScope, Bool.or_eq_true, Bool.or_eq_true, String.isEmpty_iff, beq_iff_eq, hdotted,
    Name.Encloses, Name.segments_prefix_iff, or_assoc]

end Fixture

import Fixture.Proofs.Ty.Display
import Fixture.Proofs.Ty.Reading

/-!
# The grammar of type expressions

A type expression is a name, or a name with one or more arguments in angle brackets. White space may
stand before each part, and at the end of the whole. Here the derivations of the grammar are written
down with all their parts, white space included, so each has a text of its own. What the reader
accepts are the texts of derivations, and it makes of such a text the type that the derivation
tells; and no two derivations have the same text. All of this rests on one fact: white space,
brackets and commas are no parts of names, so it is seen from what follows where a name or a type
has ended.
-/

namespace Fixture.Ty.Grammar

open Fixture.Ty.Parser

/-- White space before a part. There may be none. -/
@[ext]
structure Gap where
  letters : List Char
  blank : ∀ c ∈ letters, Unicode.isSpace c = true

/-- A name begins with a letter, an underscore or a dollar sign. Further characters may be numerals,
and dots that stand between others. -/
@[ext]
structure Ident where
  first : Char
  others : List Char
  start : isNameStart first = true
  parts : ∀ c ∈ others, isNamePart c = true
  no_last_dot : ¬ ['.'] <:+ first :: others
  no_double_dot : ¬ ['.', '.'] <:+: first :: others

namespace Ident

def letters (ident : Ident) : List Char := ident.first :: ident.others

def name (ident : Ident) : String := String.ofList ident.letters

end Ident

mutual

inductive Expression where
  | plain (gap : Gap) (ident : Ident)
  | applied (gap : Gap) (ident : Ident) (opening : Gap) (first : Expression) (others : Others)
      (closing : Gap)

/-- The arguments after the first, each behind a comma. -/
inductive Others where
  | nothing
  | next (comma : Gap) (argument : Expression) (rest : Others)

end

/-- A type expression with white space at its end. -/
structure Whole where
  expression : Expression
  trailing : Gap

mutual

def Expression.text : Expression → List Char
  | .plain gap ident => gap.letters ++ ident.letters
  | .applied gap ident opening first others closing =>
    gap.letters ++ ident.letters ++ opening.letters ++ '<' ::
      (first.text ++ others.text ++ closing.letters ++ ['>'])

def Others.text : Others → List Char
  | .nothing => []
  | .next comma argument rest => comma.letters ++ ',' :: (argument.text ++ rest.text)

end

mutual

/-- The type that an expression derives: names stand as they were written. -/
def Expression.ty : Expression → Ty
  | .plain _ ident => .named ident.name
  | .applied _ ident _ first others _ => .applied ident.name (first.ty :: others.types)

def Others.types : Others → List Ty
  | .nothing => []
  | .next _ argument rest => argument.ty :: rest.types

end

namespace Whole

def text (whole : Whole) : List Char := whole.expression.text ++ whole.trailing.letters

def ty (whole : Whole) : Ty := whole.expression.ty

end Whole

theorem text_applied (gap : Gap) (ident : Ident) (opening : Gap) (first : Expression)
    (others : Others) (closing : Gap) (left : List Char) :
    (Expression.applied gap ident opening first others closing).text ++ left =
      gap.letters ++ (ident.letters ++ (opening.letters ++ '<' ::
        (first.text ++ (others.text ++ (closing.letters ++ '>' :: left))))) := by
  simp only [Expression.text, List.append_assoc, List.cons_append, List.nil_append]

theorem text_next (comma : Gap) (argument : Expression) (more : Others) (rest : List Char) :
    (Others.next comma argument more).text ++ rest =
      comma.letters ++ ',' :: (argument.text ++ (more.text ++ rest)) := by
  simp only [Others.text, List.append_assoc, List.cons_append]

/-! ### Characters -/

theorem isNamePart_of_isNameStart {c : Char} (h : isNameStart c = true) : isNamePart c = true := by
  simp only [isNameStart, Bool.or_eq_true] at h
  simp only [isNamePart, Bool.or_eq_true]
  tauto

theorem isNamePart_of_isSpace {c : Char} (h : Unicode.isSpace c = true) :
    isNamePart c = false := by
  have hall : ∀ interval ∈ Unicode.whiteSpace,
      ∀ offset ∈ List.range (interval.2 - interval.1 + 1),
        isNamePart (Char.ofNat (interval.1 + offset)) = false := by decide +kernel
  obtain ⟨interval, hinterval, hfirst, hlast⟩ := Unicode.Intervals.exists_of_covers h
  have hpoint := hall interval hinterval (c.toNat - interval.1) (List.mem_range.2 (by omega))
  rwa [Nat.add_sub_cancel' hfirst, Char.ofNat_toNat] at hpoint

theorem isSpace_of_isNamePart {c : Char} (h : isNamePart c = true) :
    Unicode.isSpace c = false := by
  cases hspace : Unicode.isSpace c with
  | false => rfl
  | true =>
    rw [isNamePart_of_isSpace hspace] at h
    cases h

theorem wellDotted_iff (letters : List Char) :
    wellDotted letters = true ↔ ¬ ['.'] <:+ letters ∧ ¬ ['.', '.'] <:+: letters := by
  fun_induction wellDotted letters with
  | case1 => simp
  | case2 => simp
  | case3 rest =>
    have hdouble : ['.', '.'] <:+: '.' :: '.' :: rest := (List.prefix_append _ rest).isInfix
    exact ⟨fun h => absurd h Bool.false_ne_true, fun h => absurd hdouble h.2⟩
  | case4 first rest hone htwo ih =>
    have hlast : ['.'] ≠ first :: rest := by
      intro h
      obtain ⟨hdot, hnil⟩ := List.cons.inj h
      exact hone hdot.symm hnil.symm
    have hdouble : ¬ ['.', '.'] <+: first :: rest := by
      rintro ⟨tail, h⟩
      obtain ⟨hdot, hrest⟩ := List.cons.inj h
      exact htwo tail hdot.symm hrest.symm
    rw [ih, List.suffix_cons_iff, or_iff_right hlast, List.infix_cons_iff, or_iff_right hdouble]

/-! ### What follows a part -/

theorem exists_gap {text after : List Char} (h : skipSpace text = after) :
    ∃ gap : Gap, text = gap.letters ++ after := by
  have hblank : ∀ c ∈ text.takeWhile Unicode.isSpace, Unicode.isSpace c = true := fun _ hc =>
    List.all_eq_true.1 List.all_takeWhile _ hc
  refine ⟨⟨text.takeWhile Unicode.isSpace, hblank⟩, ?_⟩
  rw [← h]
  exact List.takeWhile_append_dropWhile.symm

theorem skipSpace_gap (gap : Gap) (rest : List Char) :
    skipSpace (gap.letters ++ rest) = skipSpace rest :=
  List.dropWhile_append_of_pos gap.blank

theorem skipSpace_cons {c : Char} (h : Unicode.isSpace c = false) (rest : List Char) :
    skipSpace (c :: rest) = c :: rest :=
  List.dropWhile_cons_of_neg (by simpa using h)

theorem skipSpace_mark (gap : Gap) {c : Char} (h : Unicode.isSpace c = false)
    (rest : List Char) : skipSpace (gap.letters ++ c :: rest) = c :: rest := by
  rw [skipSpace_gap, skipSpace_cons h]

theorem skipSpace_trailing (gap : Gap) : skipSpace gap.letters = [] := by
  have hgap := skipSpace_gap gap []
  rwa [List.append_nil] at hgap

/-- Here no name goes on. -/
def NameEnds (rest : List Char) : Prop := ∀ c ∈ rest.head?, isNamePart c = false

/-- Here a type has come to its end: a comma or a closing bracket follows, or nothing but white
space. -/
def TypeEnds (rest : List Char) : Prop := ∀ c ∈ (skipSpace rest).head?, c = ',' ∨ c = '>'

theorem nameEnds_of_skipSpace {rest : List Char} (h : NameEnds (skipSpace rest)) :
    NameEnds rest := by
  intro c hc
  cases hspace : Unicode.isSpace c with
  | true => exact isNamePart_of_isSpace hspace
  | false =>
    obtain ⟨tail, rfl⟩ := List.head?_eq_some_iff.1 hc
    rw [skipSpace_cons hspace] at h
    exact h c rfl

theorem TypeEnds.nameEnds {rest : List Char} (h : TypeEnds rest) : NameEnds rest := by
  apply nameEnds_of_skipSpace
  intro c hc
  rcases h c hc with rfl | rfl
  · decide
  · decide

theorem nameEnds_opening (gap : Gap) (rest : List Char) :
    NameEnds (gap.letters ++ '<' :: rest) := by
  apply nameEnds_of_skipSpace
  rw [skipSpace_mark gap (by decide)]
  intro c hc
  obtain rfl : '<' = c := Option.some.inj hc
  decide

theorem TypeEnds.not_opening {rest : List Char} (h : TypeEnds rest) (inner : List Char) :
    skipSpace rest ≠ '<' :: inner := by
  intro hskip
  have hend := h '<' (by rw [hskip]; rfl)
  exact absurd hend (by decide)

theorem typeEnds_closing {rest after : List Char} (h : skipSpace rest = '>' :: after) :
    TypeEnds rest := by
  intro c hc
  rw [h] at hc
  exact .inr (Option.some.inj hc).symm

theorem typeEnds_others (others : Others) {rest : List Char} (h : TypeEnds rest) :
    TypeEnds (others.text ++ rest) := by
  cases others with
  | nothing => exact h
  | next comma argument more =>
    intro c hc
    rw [text_next, skipSpace_mark comma (by decide)] at hc
    exact .inl (Option.some.inj hc).symm

/-- Here an expression has come to its end: its name does not go on, and no bracket opens behind
the name. What follows a closing bracket does not matter. -/
def Expression.EndsAt : Expression → List Char → Prop
  | .plain _ _, rest => NameEnds rest ∧ ∀ inner, skipSpace rest ≠ '<' :: inner
  | .applied _ _ _ _ _ _, _ => True

/-- Here the further arguments have come to their end: each of them has, and no comma follows. -/
def Others.EndsAt : Others → List Char → Prop
  | .nothing, rest => ∀ after, skipSpace rest ≠ ',' :: after
  | .next _ argument more, rest => argument.EndsAt (more.text ++ rest) ∧ more.EndsAt rest

theorem TypeEnds.endsAt {rest : List Char} (h : TypeEnds rest) (expression : Expression) :
    expression.EndsAt rest := by
  cases expression with
  | plain => exact ⟨h.nameEnds, h.not_opening⟩
  | applied => trivial

theorem endsAt_closing : ∀ (others : Others) {rest left : List Char},
    skipSpace rest = '>' :: left → others.EndsAt rest
  | .nothing, rest, left, hrest => fun after hcomma => by
    rw [hrest] at hcomma
    exact absurd (List.cons.inj hcomma).1 (by decide)
  | .next _ argument more, rest, left, hrest =>
    ⟨(typeEnds_others more (typeEnds_closing hrest)).endsAt argument, endsAt_closing more hrest⟩

/-! ### Names -/

theorem Ident.isSpace_first (ident : Ident) : Unicode.isSpace ident.first = false :=
  isSpace_of_isNamePart (isNamePart_of_isNameStart ident.start)

theorem Ident.nameParts (ident : Ident) : ∀ c ∈ ident.letters, isNamePart c = true :=
  List.forall_mem_cons.2 ⟨isNamePart_of_isNameStart ident.start, ident.parts⟩

theorem NameEnds.takeWhile {rest : List Char} (h : NameEnds rest) :
    rest.takeWhile isNamePart = [] := by
  cases rest with
  | nil => rfl
  | cons c rest => exact List.takeWhile_cons_of_neg (by simpa using h c rfl)

theorem names_ident (gap : Gap) (ident : Ident) {rest : List Char} (hrest : NameEnds rest) :
    Names (gap.letters ++ (ident.letters ++ rest)) ident.name rest := by
  have htake : (ident.others ++ rest).takeWhile isNamePart = ident.others := by
    rw [List.takeWhile_append_of_pos ident.parts, hrest.takeWhile, List.append_nil]
  have hdrop : (ident.others ++ rest).dropWhile isNamePart = rest := by
    have hwhole := List.takeWhile_append_dropWhile (p := isNamePart) (l := ident.others ++ rest)
    rw [htake] at hwhole
    exact List.append_cancel_left hwhole
  refine names_iff.2 ⟨ident.first, ident.others ++ rest, ?_, ident.start, ?_, ?_, hdrop.symm⟩
  · exact skipSpace_mark gap ident.isSpace_first _
  · rw [htake]
    exact (wellDotted_iff _).2 ⟨ident.no_last_dot, ident.no_double_dot⟩
  · rw [htake]
    rfl

theorem exists_ident {text rest : List Char} {raw : String} (h : Names text raw rest) :
    ∃ (gap : Gap) (ident : Ident), text = gap.letters ++ (ident.letters ++ rest) ∧
      ident.name = raw := by
  obtain ⟨first, others, hskip, hstart, hdotted, rfl, rfl⟩ := names_iff.1 h
  obtain ⟨gap, rfl⟩ := exists_gap hskip
  obtain ⟨hlast, hdouble⟩ := (wellDotted_iff _).1 hdotted
  have hparts : ∀ c ∈ others.takeWhile isNamePart, isNamePart c = true := fun _ hc =>
    List.all_eq_true.1 List.all_takeWhile _ hc
  refine ⟨gap, ⟨first, others.takeWhile isNamePart, hstart, hparts, hlast, hdouble⟩, ?_, rfl⟩
  show _ = gap.letters ++ (first :: (others.takeWhile isNamePart ++ _))
  rw [List.takeWhile_append_dropWhile]

theorem nameEnds_of_names {text rest : List Char} {raw : String} (h : Names text raw rest) :
    NameEnds rest := by
  obtain ⟨first, others, -, -, -, -, rfl⟩ := names_iff.1 h
  intro c hc
  have hhead := List.head?_dropWhile_not isNamePart others
  rwa [hc] at hhead

/-! ### From texts to derivations -/

/-- What is read is the text of a derivation that has come to its end where reading stops. -/
theorem exists_ended_derivation (size : Nat) :
    (∀ text ty left, text.length < size → Reads text ty left →
        ∃ expression : Expression, text = expression.text ++ left ∧ expression.ty = ty ∧
          expression.EndsAt left) ∧
      ∀ text args left, text.length < size → ReadsAll text args left →
        ∃ (others : Others) (gap : Gap), text = others.text ++ (gap.letters ++ left) ∧
          others.types = args ∧ others.EndsAt (gap.letters ++ left) ∧
          skipSpace (gap.letters ++ left) = left := by
  -- The two readers call each other on shorter texts, so both are taken up to one length.
  induction size with
  | zero => exact ⟨fun _ _ _ hlength => by omega, fun _ _ _ hlength => by omega⟩
  | succ size ih =>
    obtain ⟨ihType, ihOthers⟩ := ih
    constructor
    · intro text ty left hlength h
      obtain ⟨raw, rest, hname, hcases⟩ := reads_iff.1 h
      have hrest := hname.length_lt
      have hends := nameEnds_of_names hname
      obtain ⟨gap, ident, rfl, rfl⟩ := exists_ident hname
      rcases hcases with ⟨hplain, rfl, rfl⟩ |
        ⟨inner, first, middle, others, hskip, hfirst, hothers, rfl⟩
      · exact ⟨.plain gap ident, by rw [Expression.text, List.append_assoc], rfl, hends, hplain⟩
      · have hinner := length_of_skipSpace hskip
        have hmiddle := hfirst.length_lt
        obtain ⟨opening, rfl⟩ := exists_gap hskip
        obtain ⟨argument, rfl, rfl, -⟩ := ihType inner first middle (by omega) hfirst
        obtain ⟨more, closing, rfl, rfl, -, -⟩ := ihOthers middle others _ (by omega) hothers
        have htext := text_applied gap ident opening argument more closing left
        exact ⟨.applied gap ident opening argument more closing, htext.symm, rfl, trivial⟩
    · intro text args left hlength h
      rcases readsAll_iff.1 h with ⟨hnone, rfl, hleft⟩ |
        ⟨after, next, middle, others, hskip, hnext, hothers, rfl⟩
      · obtain ⟨gap, rfl⟩ := exists_gap hleft.symm
        exact ⟨.nothing, gap, rfl, rfl, hnone, hleft.symm⟩
      · have hafter := length_of_skipSpace hskip
        have hmiddle := hnext.length_lt
        obtain ⟨comma, rfl⟩ := exists_gap hskip
        obtain ⟨argument, rfl, rfl, hargument⟩ := ihType after next middle (by omega) hnext
        obtain ⟨more, gap, rfl, rfl, hmore, hgap⟩ := ihOthers middle others _ (by omega) hothers
        have htext := text_next comma argument more (gap.letters ++ left)
        exact ⟨.next comma argument more, gap, htext.symm, rfl, ⟨hargument, hmore⟩, hgap⟩

theorem exists_expression {text left : List Char} {ty : Ty} (h : Reads text ty left) :
    ∃ expression : Expression, text = expression.text ++ left ∧ expression.ty = ty ∧
      expression.EndsAt left :=
  (exists_ended_derivation _).1 text ty left (Nat.lt_succ_self _) h

theorem exists_others {text left : List Char} {args : List Ty} (h : ReadsAll text args left) :
    ∃ (others : Others) (gap : Gap), text = others.text ++ (gap.letters ++ left) ∧
      others.types = args ∧ others.EndsAt (gap.letters ++ left) ∧
      skipSpace (gap.letters ++ left) = left :=
  (exists_ended_derivation _).2 text args left (Nat.lt_succ_self _) h

/-! ### From derivations to texts -/

mutual

theorem reads_of_endsAt : ∀ (expression : Expression) {left : List Char},
    expression.EndsAt left → Reads (expression.text ++ left) expression.ty left
  | .plain gap ident, left, hleft => by
    obtain ⟨hname, hplain⟩ := hleft
    rw [Expression.text, List.append_assoc]
    exact reads_iff.2 ⟨_, _, names_ident gap ident hname, .inl ⟨hplain, rfl, rfl⟩⟩
  | .applied gap ident opening first others closing, left, _ => by
    have hclosing : skipSpace (closing.letters ++ '>' :: left) = '>' :: left :=
      skipSpace_mark closing (by decide) left
    have hends := typeEnds_others others (typeEnds_closing hclosing)
    have hfirst := reads_of_endsAt first (hends.endsAt first)
    have hothers := readsAll_of_endsAt others (endsAt_closing others hclosing)
    rw [hclosing] at hothers
    have hname := names_ident gap ident (nameEnds_opening opening
      (first.text ++ (others.text ++ (closing.letters ++ '>' :: left))))
    rw [text_applied]
    refine reads_iff.2 ⟨_, _, hname, .inr ⟨_, _, _, _, ?_, hfirst, hothers, rfl⟩⟩
    exact skipSpace_mark opening (by decide) _

theorem readsAll_of_endsAt : ∀ (others : Others) {rest : List Char}, others.EndsAt rest →
    ReadsAll (others.text ++ rest) others.types (skipSpace rest)
  | .nothing, rest, hrest => readsAll_iff.2 (.inl ⟨hrest, rfl, rfl⟩)
  | .next comma argument more, rest, hrest => by
    have hnext := reads_of_endsAt argument hrest.1
    have hmore := readsAll_of_endsAt more hrest.2
    rw [text_next]
    refine readsAll_iff.2 (.inr ⟨_, _, _, _, ?_, hnext, hmore, rfl⟩)
    exact skipSpace_mark comma (by decide) _

end

theorem reads_expression (expression : Expression) {left : List Char} (hleft : TypeEnds left) :
    Reads (expression.text ++ left) expression.ty left :=
  reads_of_endsAt expression (hleft.endsAt expression)

/-! ### One derivation for a text -/

theorem gap_inj {gap other : Gap} {rest after : List Char}
    (hrest : skipSpace rest = rest) (hafter : skipSpace after = after)
    (h : gap.letters ++ rest = other.letters ++ after) : gap = other ∧ rest = after := by
  have htail := congrArg skipSpace h
  rw [skipSpace_gap, skipSpace_gap, hrest, hafter] at htail
  subst htail
  exact ⟨Gap.ext (List.append_cancel_right h), rfl⟩

theorem ident_inj {gap gap' : Gap} {ident other : Ident} {rest after : List Char}
    (hrest : NameEnds rest) (hafter : NameEnds after)
    (h : gap.letters ++ (ident.letters ++ rest) = gap'.letters ++ (other.letters ++ after)) :
    gap = gap' ∧ ident = other ∧ rest = after := by
  have hshown : ∀ (ident : Ident) (rest : List Char),
      skipSpace (ident.letters ++ rest) = ident.letters ++ rest := fun ident _ =>
    skipSpace_cons ident.isSpace_first _
  obtain ⟨rfl, hnames⟩ := gap_inj (hshown _ _) (hshown _ _) h
  have hparts : ∀ ident : Ident, ∀ c ∈ ident.letters, ¬ isNamePart c = false := by
    intro ident c hc hend
    rw [ident.nameParts c hc] at hend
    cases hend
  obtain ⟨hletters, hrests⟩ := append_inj_of_ends (hparts ident) (hparts other) hrest hafter hnames
  obtain ⟨hfirst, hothers⟩ := List.cons.inj hletters
  exact ⟨rfl, Ident.ext hfirst hothers, hrests⟩

theorem not_opening_of_eq {rest inner : List Char} (h : TypeEnds rest) {opening : Gap}
    (heq : rest = opening.letters ++ '<' :: inner) : False := by
  apply h.not_opening inner
  rw [heq]
  exact skipSpace_mark opening (by decide) inner

theorem not_comma_of_eq {rest left after : List Char} (h : skipSpace rest = '>' :: left)
    {comma : Gap} (heq : rest = comma.letters ++ ',' :: after) : False := by
  rw [heq, skipSpace_mark comma (by decide)] at h
  exact absurd (List.cons.inj h).1 (by decide)

theorem mark_inj {gap other : Gap} {c : Char} {rest after : List Char}
    (hc : Unicode.isSpace c = false) (h : gap.letters ++ c :: rest = other.letters ++ c :: after) :
    gap = other ∧ rest = after := by
  obtain ⟨hgap, htail⟩ := gap_inj (skipSpace_cons hc rest) (skipSpace_cons hc after) h
  exact ⟨hgap, (List.cons.inj htail).2⟩

mutual

/-- Where a type has come to its end, its derivation can be told from the text before. -/
theorem expression_inj : ∀ (expression other : Expression) {left after : List Char},
    TypeEnds left → TypeEnds after → expression.text ++ left = other.text ++ after →
      expression = other ∧ left = after
  | .plain gap ident, .plain gap' ident', left, after, hleft, hafter, h => by
    rw [Expression.text, Expression.text, List.append_assoc, List.append_assoc] at h
    obtain ⟨rfl, rfl, hrest⟩ := ident_inj hleft.nameEnds hafter.nameEnds h
    exact ⟨rfl, hrest⟩
  | .plain gap ident, .applied _ _ opening _ _ _, left, after, hleft, hafter, h => by
    rw [Expression.text, List.append_assoc, text_applied] at h
    obtain ⟨-, -, hrest⟩ := ident_inj hleft.nameEnds (nameEnds_opening opening _) h
    exact (not_opening_of_eq hleft hrest).elim
  | .applied _ _ opening _ _ _, .plain gap ident, left, after, hleft, hafter, h => by
    rw [Expression.text, List.append_assoc, text_applied] at h
    obtain ⟨-, -, hrest⟩ := ident_inj (nameEnds_opening opening _) hafter.nameEnds h
    exact (not_opening_of_eq hafter hrest.symm).elim
  | .applied gap ident opening first others closing,
      .applied gap' ident' opening' first' others' closing', left, after, hleft, hafter, h => by
    rw [text_applied, text_applied] at h
    obtain ⟨rfl, rfl, hrest⟩ :=
      ident_inj (nameEnds_opening opening _) (nameEnds_opening opening' _) h
    obtain ⟨rfl, hinner⟩ := mark_inj (by decide) hrest
    have hends : ∀ (gap : Gap) (left : List Char),
        skipSpace (gap.letters ++ '>' :: left) = '>' :: left := fun gap left =>
      skipSpace_mark gap (by decide) left
    obtain ⟨rfl, hothers⟩ := expression_inj first first'
      (typeEnds_others others (typeEnds_closing (hends closing left)))
      (typeEnds_others others' (typeEnds_closing (hends closing' after))) hinner
    obtain ⟨rfl, htail⟩ := others_inj others others' (hends closing left) (hends closing' after)
      hothers
    obtain ⟨rfl, hlast⟩ := mark_inj (by decide) htail
    exact ⟨rfl, hlast⟩

theorem others_inj : ∀ (others second : Others) {rest after left right : List Char},
    skipSpace rest = '>' :: left → skipSpace after = '>' :: right →
      others.text ++ rest = second.text ++ after → others = second ∧ rest = after
  | .nothing, .nothing, rest, after, _, _, _, _, h => ⟨rfl, h⟩
  | .nothing, .next comma argument more, rest, after, left, right, hrest, hafter, h => by
    rw [text_next] at h
    exact (not_comma_of_eq hrest h).elim
  | .next comma argument more, .nothing, rest, after, left, right, hrest, hafter, h => by
    rw [text_next] at h
    exact (not_comma_of_eq hafter h.symm).elim
  | .next comma argument more, .next comma' argument' more', rest, after, left, right, hrest,
      hafter, h => by
    rw [text_next, text_next] at h
    obtain ⟨rfl, hinner⟩ := mark_inj (by decide) h
    obtain ⟨rfl, hmore⟩ := expression_inj argument argument'
      (typeEnds_others more (typeEnds_closing hrest))
      (typeEnds_others more' (typeEnds_closing hafter)) hinner
    obtain ⟨rfl, htail⟩ := others_inj more more' hrest hafter hmore
    exact ⟨rfl, htail⟩

end

/-! ### Whole texts -/

theorem typeEnds_trailing (gap : Gap) : TypeEnds gap.letters := by
  intro c hc
  rw [skipSpace_trailing] at hc
  cases hc

theorem text_injective : Function.Injective Whole.text := by
  rintro ⟨expression, trailing⟩ ⟨second, other⟩ h
  obtain ⟨rfl, hletters⟩ :=
    expression_inj expression second (typeEnds_trailing trailing) (typeEnds_trailing other) h
  rw [Gap.ext hletters]

/-- A text is accepted as a type if and only if it is the text of a derivation of the grammar, and
then the type is the one that is derived. No two derivations have the same text. -/
theorem parse_derives :
    (∀ text ty, parse text = .ok ty ↔
      ∃ whole : Whole, whole.text = text.toList ∧ whole.ty = ty) ∧
      Function.Injective Whole.text := by
  refine ⟨fun text ty => ?_, text_injective⟩
  rw [parse_ok_iff]
  constructor
  · rintro ⟨left, hread, hnone⟩
    obtain ⟨expression, htext, hty, -⟩ := exists_expression hread
    obtain ⟨trailing, rfl⟩ := exists_gap hnone
    rw [List.append_nil] at htext
    exact ⟨⟨expression, trailing⟩, htext.symm, hty⟩
  · rintro ⟨whole, htext, rfl⟩
    refine ⟨whole.trailing.letters, ?_, skipSpace_trailing whole.trailing⟩
    rw [← htext]
    exact reads_expression whole.expression (typeEnds_trailing whole.trailing)

end Fixture.Ty.Grammar

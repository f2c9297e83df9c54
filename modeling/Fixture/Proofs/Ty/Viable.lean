import Fixture.Proofs.Ty.Grammar

/-!
# Where a text stops being the beginning of a type expression

A text that is refused for what stands at some place is told apart there: everything before the
place can be gone on with to a type expression, and with the next character nothing can. Both are
shown of the places where the reader stops. What was read before them is the text of derivations, so
it can be completed; and since a derivation that has come to its end before a character has done so
whatever follows that character, the reader stops there again in every text with the same beginning.
-/

namespace Fixture.Ty

open Grammar

namespace Parser

/-- What is left of the text where the reader stopped. The flaw of a bad name has no place. -/
def Stop.left? : Stop → Option (List Char)
  | nameExpected left => some left
  | badName _ => none
  | closingExpected left => some left

/-- No type is read from the text, because of what is left of it. -/
def Halts (text left : List Char) : Prop :=
  ∃ stop, expression text = .error stop ∧ stop.left? = some left

/-- No further arguments are read from the text, because of what is left of it. -/
def HaltsAll (text left : List Char) : Prop :=
  ∃ stop, arguments text = .error stop ∧ stop.left? = some left

variable {text left middle rest : List Char} {ty : Ty} {args : List Ty}

theorem Halts.cases (h : Halts text left) :
    (left = skipSpace text ∧ ∀ c ∈ left.head?, isNameStart c = false) ∨
      ∃ raw rest inner, Names text raw rest ∧ skipSpace rest = '<' :: inner ∧
        (Halts inner left ∨ ∃ first middle, Reads inner first middle ∧
          (HaltsAll middle left ∨
            ∃ others, ReadsAll middle others left ∧ left.head? ≠ some '>')) := by
  obtain ⟨stop, hstop, hleft⟩ := h
  unfold expression at hstop
  split at hstop
  · next hname =>
    cases hstop
    unfold name at hname
    split at hname
    · next hskip =>
      cases hname
      cases hleft
      exact .inl ⟨hskip.symm, by simp⟩
    · next first others hskip =>
      split at hname
      · dsimp only at hname
        split at hname
        · cases hname
        · cases hname
          cases hleft
      · next hstart =>
        cases hname
        cases hleft
        exact .inl ⟨hskip.symm, by simpa using hstart⟩
  · next raw after hafter hname =>
    refine .inr ⟨raw, after, ?_⟩
    split at hstop
    · next inner hskip =>
      refine ⟨inner, ⟨_, hname, rfl⟩, hskip, ?_⟩
      split at hstop
      · next hfirst =>
        cases hstop
        exact .inl ⟨_, hfirst, hleft⟩
      · next first middle hmiddle hfirst =>
        refine .inr ⟨first, middle, ⟨_, hfirst, rfl⟩, ?_⟩
        split at hstop
        · next hothers =>
          cases hstop
          exact .inl ⟨_, hothers, hleft⟩
        · next others last hlast hothers =>
          split at hstop
          · cases hstop
          · next hclosing =>
            cases hstop
            cases hleft
            exact .inr ⟨others, ⟨_, hothers, rfl⟩, hclosing⟩
    · cases hstop

theorem HaltsAll.cases (h : HaltsAll text left) :
    ∃ after, skipSpace text = ',' :: after ∧
      (Halts after left ∨ ∃ next middle, Reads after next middle ∧ HaltsAll middle left) := by
  obtain ⟨stop, hstop, hleft⟩ := h
  unfold arguments at hstop
  split at hstop
  · next after hskip =>
    refine ⟨after, hskip, ?_⟩
    split at hstop
    · next hnext =>
      cases hstop
      exact .inl ⟨_, hnext, hleft⟩
    · next next middle hmiddle hnext =>
      refine .inr ⟨next, middle, ⟨_, hnext, rfl⟩, ?_⟩
      split at hstop
      · next hothers =>
        cases hstop
        exact ⟨_, hothers, hleft⟩
      · cases hstop
  · cases hstop

theorem Names.unique {raw second : String} (h : Names text raw rest)
    (hother : Names text second middle) : raw = second ∧ rest = middle := by
  obtain ⟨_, hname, rfl⟩ := h
  obtain ⟨_, hother, rfl⟩ := hother
  cases hname.symm.trans hother
  exact ⟨rfl, rfl⟩

theorem Reads.unique {second : Ty} (h : Reads text ty rest) (hother : Reads text second middle) :
    ty = second ∧ rest = middle := by
  obtain ⟨_, hread, rfl⟩ := h
  obtain ⟨_, hother, rfl⟩ := hother
  cases hread.symm.trans hother
  exact ⟨rfl, rfl⟩

theorem ReadsAll.unique {others : List Ty} (h : ReadsAll text args rest)
    (hother : ReadsAll text others middle) : args = others ∧ rest = middle := by
  obtain ⟨_, hread, rfl⟩ := h
  obtain ⟨_, hother, rfl⟩ := hother
  cases hread.symm.trans hother
  exact ⟨rfl, rfl⟩

end Parser

namespace Grammar

open Fixture.Ty.Parser

/-! ### What does not matter behind a character -/

section

variable {c : Char} {before rest : List Char}

theorem skipSpace_append_cons (hc : Unicode.isSpace c = false) (before rest : List Char) :
    skipSpace (before ++ c :: rest) = skipSpace before ++ c :: rest := by
  unfold skipSpace
  rw [List.dropWhile_append]
  split
  · next hempty =>
    rw [List.isEmpty_iff.1 hempty]
    exact skipSpace_cons hc rest
  · rfl

theorem cons_of_append_cons {d : Char} {inner : List Char} (h : before ++ c :: rest = d :: inner)
    (other : List Char) : ∃ inner, before ++ c :: other = d :: inner := by
  cases before with
  | nil => exact ⟨other, congrArg (· :: other) (List.cons.inj h).1⟩
  | cons first before => exact ⟨_, congrArg (· :: (before ++ c :: other)) (List.cons.inj h).1⟩

theorem NameEnds.follow (h : NameEnds (before ++ c :: rest)) (other : List Char) :
    NameEnds (before ++ c :: other) := by
  intro d hd
  obtain ⟨inner, hinner⟩ := List.head?_eq_some_iff.1 hd
  obtain ⟨_, hrest⟩ := cons_of_append_cons hinner rest
  exact h d (by rw [hrest]; rfl)

theorem skipSpace_ne_follow (hc : Unicode.isSpace c = false) {d : Char}
    (h : ∀ inner, skipSpace (before ++ c :: rest) ≠ d :: inner) (other inner : List Char) :
    skipSpace (before ++ c :: other) ≠ d :: inner := by
  rw [skipSpace_append_cons hc] at h ⊢
  intro hinner
  obtain ⟨_, hrest⟩ := cons_of_append_cons hinner rest
  exact h _ hrest

theorem Expression.EndsAt.follow {expression : Expression}
    (h : expression.EndsAt (before ++ c :: rest)) (hc : Unicode.isSpace c = false)
    (other : List Char) : expression.EndsAt (before ++ c :: other) := by
  cases expression with
  | plain => exact ⟨h.1.follow other, skipSpace_ne_follow hc h.2 other⟩
  | applied => trivial

theorem Others.EndsAt.follow : ∀ {others : Others} {before rest : List Char},
    others.EndsAt (before ++ c :: rest) → Unicode.isSpace c = false →
      ∀ other : List Char, others.EndsAt (before ++ c :: other)
  | .nothing, _, _, h, hc, other => skipSpace_ne_follow hc h other
  | .next _ _ more, before, rest, h, hc, other => by
    obtain ⟨hargument, hmore⟩ := h
    rw [← List.append_assoc] at hargument
    have hends := hargument.follow hc other
    rw [List.append_assoc] at hends
    exact ⟨hends, hmore.follow hc other⟩

end

/-! ### Brackets and commas -/

/-- A name with its bracket opened, and what stands inside. -/
def opened (gap : Gap) (ident : Ident) (opening : Gap) (inner : List Char) : List Char :=
  gap.letters ++ (ident.letters ++ (opening.letters ++ '<' :: inner))

/-- A comma, and what stands behind it. -/
def behindComma (comma : Gap) (rest : List Char) : List Char := comma.letters ++ ',' :: rest

section

variable {gap opening comma : Gap} {ident : Ident} {inner rest after : List Char} {ty : Ty}
  {args : List Ty}

@[simp] theorem opened_append (inner rest : List Char) :
    opened gap ident opening inner ++ rest = opened gap ident opening (inner ++ rest) := by
  simp [opened]

@[simp] theorem behindComma_append (rest after : List Char) :
    behindComma comma rest ++ after = behindComma comma (rest ++ after) := by
  simp [behindComma]

theorem skipSpace_behindComma : skipSpace (behindComma comma rest) = ',' :: rest :=
  skipSpace_mark comma (by decide) rest

theorem typeEnds_behindComma : TypeEnds (behindComma comma rest) := by
  intro c hc
  rw [skipSpace_behindComma] at hc
  exact .inl (Option.some.inj hc).symm

theorem names_opened :
    Names (opened gap ident opening inner) ident.name (opening.letters ++ '<' :: inner) :=
  names_ident gap ident (nameEnds_opening opening inner)

theorem exists_opened {text : List Char} {raw : String} (hname : Names text raw rest)
    (hskip : skipSpace rest = '<' :: inner) :
    ∃ gap ident opening, text = opened gap ident opening inner := by
  obtain ⟨gap, ident, rfl, -⟩ := exists_ident hname
  obtain ⟨opening, rfl⟩ := exists_gap hskip
  exact ⟨gap, ident, opening, rfl⟩

theorem exists_reads_of_opened (h : Reads (opened gap ident opening inner) ty after) :
    ∃ first middle others, Reads inner first middle ∧ ReadsAll middle others ('>' :: after) := by
  obtain ⟨raw, rest, hname, hcases⟩ := reads_iff.1 h
  have hopening : skipSpace (opening.letters ++ '<' :: inner) = '<' :: inner :=
    skipSpace_mark opening (by decide) inner
  obtain ⟨-, rfl⟩ := names_opened.unique hname
  rcases hcases with ⟨hplain, -, -⟩ | ⟨inside, first, middle, others, hskip, hfirst, hothers, -⟩
  · exact absurd hopening (hplain inner)
  · obtain rfl : inner = inside := (List.cons.inj (hopening.symm.trans hskip)).2
    exact ⟨first, middle, others, hfirst, hothers⟩

theorem exists_reads_of_behindComma (h : ReadsAll (behindComma comma rest) args after) :
    ∃ next middle others, Reads rest next middle ∧ ReadsAll middle others after := by
  rcases readsAll_iff.1 h with ⟨hnone, -, -⟩ | ⟨behind, next, middle, others, hskip, hnext, hall, -⟩
  · exact absurd skipSpace_behindComma (hnone rest)
  · obtain rfl : rest = behind :=
      (List.cons.inj (skipSpace_behindComma.symm.trans hskip)).2
    exact ⟨next, middle, others, hnext, hall⟩

end

/-! ### Places where reading stops -/

theorem isSpace_of_skipSpace {text rest : List Char} {c : Char} (h : skipSpace text = c :: rest) :
    Unicode.isSpace c = false := by
  have hhead := List.head?_dropWhile_not Unicode.isSpace text
  rw [show text.dropWhile Unicode.isSpace = c :: rest from h] at hhead
  exact hhead

def underscore : Ident where
  first := '_'
  others := []
  start := by decide
  parts := by simp
  no_last_dot := by decide
  no_double_dot := by decide

/-- What stands before can be gone on with to an expression, but not with the next character of what
is left. -/
structure Blocks (before left : List Char) : Prop where
  opens : ∃ (expression : Expression) (tail : List Char), expression.text = before ++ tail
  bars : ∀ c ∈ left.head?, ∀ other ty after, ¬ Reads (before ++ c :: other) ty after

/-- The same of what stands before in the further arguments, from a comma on. -/
structure BlocksAll (before left : List Char) : Prop where
  comma : ∃ comma rest, before = behindComma comma rest
  opens : ∃ (others : Others) (tail : List Char), others.text = before ++ tail
  bars : ∀ c ∈ left.head?, ∀ other args after, ¬ ReadsAll (before ++ c :: other) args after

section

variable {gap closing : Gap} {first : Expression} {others : Others} {before left : List Char}

theorem text_applied_opened (gap : Gap) (ident : Ident) (opening : Gap) (first : Expression)
    (others : Others) (closing : Gap) :
    (Expression.applied gap ident opening first others closing).text =
      opened gap ident opening (first.text ++ (others.text ++ (closing.letters ++ ['>']))) := by
  have htext := text_applied gap ident opening first others closing []
  rwa [List.append_nil] at htext

theorem text_next_behindComma (comma : Gap) (argument : Expression) (more : Others) :
    (Others.next comma argument more).text = behindComma comma (argument.text ++ more.text) := rfl

theorem blocks_gap (hleft : skipSpace (gap.letters ++ left) = left)
    (hstart : ∀ c ∈ left.head?, isNameStart c = false) : Blocks gap.letters left := by
  constructor
  · exact ⟨.plain gap underscore, underscore.letters, rfl⟩
  · intro c hc other ty after hread
    obtain ⟨rest, rfl⟩ := List.head?_eq_some_iff.1 hc
    have hspace := isSpace_of_skipSpace hleft
    obtain ⟨raw, middle, hname, -⟩ := reads_iff.1 hread
    obtain ⟨first, others, hskip, hfirst, -⟩ := names_iff.1 hname
    rw [skipSpace_mark gap hspace] at hskip
    obtain ⟨rfl, -⟩ := List.cons.inj hskip
    rw [hstart c hc] at hfirst
    cases hfirst

theorem Blocks.inside (h : Blocks before left) (gap : Gap) (ident : Ident) (opening : Gap) :
    Blocks (opened gap ident opening before) left := by
  constructor
  · obtain ⟨expression, tail, htext⟩ := h.opens
    refine ⟨.applied gap ident opening expression .nothing ⟨[], by simp⟩, tail ++ ['>'], ?_⟩
    rw [text_applied_opened, htext, opened_append, List.append_assoc]
    rfl
  · intro c hc other ty after hread
    rw [opened_append] at hread
    obtain ⟨first, middle, others, hfirst, -⟩ := exists_reads_of_opened hread
    exact h.bars c hc other first middle hfirst

theorem BlocksAll.inside (h : BlocksAll before left) (gap : Gap) (ident : Ident) (opening : Gap)
    (first : Expression) : Blocks (opened gap ident opening (first.text ++ before)) left := by
  constructor
  · obtain ⟨others, tail, htext⟩ := h.opens
    refine ⟨.applied gap ident opening first others ⟨[], by simp⟩, tail ++ ['>'], ?_⟩
    rw [text_applied_opened, htext, opened_append, List.append_assoc, List.append_assoc]
    rfl
  · intro c hc other ty after hread
    obtain ⟨comma, rest, rfl⟩ := h.comma
    rw [opened_append, List.append_assoc] at hread
    obtain ⟨next, middle, args, hnext, hall⟩ := exists_reads_of_opened hread
    have hends : TypeEnds (behindComma comma rest ++ c :: other) := by
      rw [behindComma_append]
      exact typeEnds_behindComma
    obtain ⟨-, rfl⟩ := (reads_expression first hends).unique hnext
    exact h.bars c hc other args _ hall

/-- All arguments are read up to the same place, whatever stands behind the next character; and
there no bracket closes. -/
theorem blocks_closing (gap : Gap) (ident : Ident) (opening : Gap)
    (hfirst : first.EndsAt (others.text ++ (closing.letters ++ left)))
    (hothers : others.EndsAt (closing.letters ++ left))
    (hleft : skipSpace (closing.letters ++ left) = left) (hbracket : left.head? ≠ some '>') :
    Blocks (opened gap ident opening (first.text ++ (others.text ++ closing.letters))) left := by
  constructor
  · refine ⟨.applied gap ident opening first others closing, ['>'], ?_⟩
    rw [text_applied_opened, opened_append, List.append_assoc, List.append_assoc]
  · intro c hc other ty after hread
    obtain ⟨rest, rfl⟩ := List.head?_eq_some_iff.1 hc
    have hspace := isSpace_of_skipSpace hleft
    rw [← List.append_assoc] at hfirst
    have hends := hfirst.follow hspace other
    rw [List.append_assoc] at hends
    rw [opened_append, List.append_assoc, List.append_assoc] at hread
    obtain ⟨next, middle, args, hnext, hall⟩ := exists_reads_of_opened hread
    obtain ⟨-, rfl⟩ := (reads_of_endsAt first hends).unique hnext
    obtain ⟨-, hlast⟩ := (readsAll_of_endsAt others (hothers.follow hspace other)).unique hall
    rw [skipSpace_mark closing hspace] at hlast
    exact hbracket (congrArg some (List.cons.inj hlast).1)

theorem Blocks.behindComma (h : Blocks before left) (comma : Gap) :
    BlocksAll (behindComma comma before) left := by
  refine ⟨⟨comma, before, rfl⟩, ?_, ?_⟩
  · obtain ⟨argument, tail, htext⟩ := h.opens
    refine ⟨.next comma argument .nothing, tail, ?_⟩
    rw [text_next_behindComma, htext, behindComma_append]
    exact congrArg _ (List.append_nil _)
  · intro c hc other args after hread
    rw [behindComma_append] at hread
    obtain ⟨next, middle, others, hnext, -⟩ := exists_reads_of_behindComma hread
    exact h.bars c hc other next middle hnext

theorem BlocksAll.behindComma (h : BlocksAll before left) (comma : Gap) (argument : Expression) :
    BlocksAll (behindComma comma (argument.text ++ before)) left := by
  refine ⟨⟨comma, argument.text ++ before, rfl⟩, ?_, ?_⟩
  · obtain ⟨others, tail, htext⟩ := h.opens
    refine ⟨.next comma argument others, tail, ?_⟩
    rw [text_next_behindComma, htext, behindComma_append, List.append_assoc]
  · intro c hc other args after hread
    obtain ⟨second, rest, rfl⟩ := h.comma
    rw [behindComma_append, List.append_assoc] at hread
    obtain ⟨next, middle, others, hnext, hall⟩ := exists_reads_of_behindComma hread
    have hends : TypeEnds (Grammar.behindComma second rest ++ c :: other) := by
      rw [behindComma_append]
      exact typeEnds_behindComma
    obtain ⟨-, rfl⟩ := (reads_expression argument hends).unique hnext
    exact h.bars c hc other others _ hall

end

/-- Where the reader stops, the rest of the text blocks the way. -/
theorem exists_blocks (size : Nat) :
    (∀ text left, text.length < size → Halts text left →
        ∃ before, text = before ++ left ∧ Blocks before left) ∧
      ∀ text left, text.length < size → HaltsAll text left →
        ∃ before, text = before ++ left ∧ BlocksAll before left := by
  -- The two readers call each other on shorter texts, so both are taken up to one length.
  induction size with
  | zero => exact ⟨fun _ _ hlength => by omega, fun _ _ hlength => by omega⟩
  | succ size ih =>
    obtain ⟨ihType, ihOthers⟩ := ih
    constructor
    · intro text left hlength h
      rcases h.cases with ⟨hleft, hstart⟩ | ⟨raw, rest, inner, hname, hskip, hcases⟩
      · obtain ⟨gap, rfl⟩ := exists_gap hleft.symm
        exact ⟨gap.letters, rfl, blocks_gap hleft.symm hstart⟩
      · have hrest := hname.length_lt
        have hinner := length_of_skipSpace hskip
        obtain ⟨gap, ident, opening, rfl⟩ := exists_opened hname hskip
        rcases hcases with hfirst | ⟨first, middle, hfirst, hall⟩
        · obtain ⟨before, rfl, hblocks⟩ := ihType inner left (by omega) hfirst
          exact ⟨_, (opened_append _ _).symm, hblocks.inside gap ident opening⟩
        · have hmiddle := hfirst.length_lt
          obtain ⟨argument, rfl, rfl, hends⟩ := exists_expression hfirst
          rcases hall with hothers | ⟨args, hothers, hbracket⟩
          · obtain ⟨before, rfl, hblocks⟩ := ihOthers middle left (by omega) hothers
            refine ⟨_, ?_, hblocks.inside gap ident opening argument⟩
            rw [opened_append, List.append_assoc]
          · obtain ⟨others, closing, rfl, rfl, hlast, hleft⟩ := exists_others hothers
            refine ⟨_, ?_, blocks_closing gap ident opening hends hlast hleft hbracket⟩
            rw [opened_append, List.append_assoc, List.append_assoc]
    · intro text left hlength h
      obtain ⟨after, hskip, hcases⟩ := h.cases
      have hafter := length_of_skipSpace hskip
      obtain ⟨comma, rfl⟩ := exists_gap hskip
      rcases hcases with hnext | ⟨next, middle, hnext, hothers⟩
      · obtain ⟨before, rfl, hblocks⟩ := ihType after left (by omega) hnext
        exact ⟨_, (behindComma_append _ _).symm, hblocks.behindComma comma⟩
      · have hmiddle := hnext.length_lt
        obtain ⟨argument, rfl, rfl, -⟩ := exists_expression hnext
        obtain ⟨before, rfl, hblocks⟩ := ihOthers middle left (by omega) hothers
        refine ⟨_, ?_, hblocks.behindComma comma argument⟩
        rw [behindComma_append, List.append_assoc]
        rfl

theorem parse_text (whole : Whole) : parse (String.ofList whole.text) = .ok whole.ty := by
  refine parse_ok_iff.2 ⟨whole.trailing.letters, ?_, skipSpace_trailing whole.trailing⟩
  rw [String.toList_ofList]
  exact reads_expression whole.expression (typeEnds_trailing whole.trailing)

end Grammar

/-! ### The place of a flaw -/

/-- A text that can be gone on with to one that is accepted. -/
def Viable (start : String) : Prop := ∃ rest ty, parse (start ++ rest) = .ok ty

/-- No longer beginning of the text than this can be gone on with to a text that is accepted. -/
structure LongestViable (text start : String) : Prop where
  begins : ∃ rest, text = start ++ rest
  viable : Viable start
  longest : ∀ longer rest, text = longer ++ rest → Viable longer →
    longer.utf8ByteSize ≤ start.utf8ByteSize

/-- The place that a flaw tells. A bad name is told without one. -/
def Flaw.offset? : Flaw → Option Nat
  | nameExpected offset => some offset
  | badName _ => none
  | closingExpected offset => some offset
  | trailingInput offset => some offset

theorem Parser.byteSize_eq (text : List Char) :
    Parser.byteSize text = (String.ofList text).utf8ByteSize := by
  induction text with
  | nil => rfl
  | cons c rest ih =>
    rw [String.ofList_cons, String.utf8ByteSize_append, String.utf8ByteSize_singleton, ← ih]
    rfl

theorem Parser.byteSize_append_sub (before left : List Char) :
    byteSize (before ++ left) - byteSize left = (String.ofList before).utf8ByteSize := by
  rw [byteSize_eq, byteSize_eq, String.ofList_append, String.utf8ByteSize_append]
  omega

theorem exists_left {text : String} {flaw : Flaw} {offset : Nat} (h : parse text = .error flaw)
    (hoffset : flaw.offset? = some offset) :
    ∃ left, offset = Parser.byteSize text.toList - Parser.byteSize left ∧
      (Parser.Halts text.toList left ∨ left ≠ [] ∧
        ∃ ty rest, Parser.Reads text.toList ty rest ∧ Parser.skipSpace rest = left) := by
  unfold parse at h
  dsimp only at h
  split at h
  · next left hread =>
    cases h
    cases hoffset
    exact ⟨left, rfl, .inl ⟨_, hread, rfl⟩⟩
  · cases h
    cases hoffset
  · next left hread =>
    cases h
    cases hoffset
    exact ⟨left, rfl, .inl ⟨_, hread, rfl⟩⟩
  · next ty rest hrest hread =>
    split at h
    · cases h
    · next hleft =>
      cases h
      cases hoffset
      exact ⟨_, rfl, .inr ⟨hleft, ty, rest, ⟨_, hread, rfl⟩, rfl⟩⟩

/-- What stands before the place of a flaw begins texts that are accepted, but none of them goes on
with the character at the place. -/
theorem exists_before {text : String} {flaw : Flaw} {offset : Nat} (h : parse text = .error flaw)
    (hoffset : flaw.offset? = some offset) :
    ∃ before left, text = String.ofList (before ++ left) ∧
      offset = (String.ofList before).utf8ByteSize ∧ Viable (String.ofList before) ∧
      ∀ c ∈ left.head?, ∀ other ty, parse (String.ofList (before ++ c :: other)) ≠ .ok ty := by
  obtain ⟨left, rfl, hstop⟩ := exists_left h hoffset
  rcases hstop with hhalts | ⟨hnone, ty, rest, hread, rfl⟩
  · obtain ⟨before, htext, hblocks⟩ :=
      (exists_blocks _).1 text.toList left (Nat.lt_succ_self _) hhalts
    refine ⟨before, left, ?_, ?_, ?_, ?_⟩
    · rw [← htext, String.ofList_toList]
    · rw [htext, Parser.byteSize_append_sub]
    · obtain ⟨expression, tail, hwhole⟩ := hblocks.opens
      refine ⟨String.ofList tail, expression.ty, ?_⟩
      rw [← String.ofList_append, ← hwhole]
      have hparse := parse_text ⟨expression, ⟨[], by simp⟩⟩
      rwa [Whole.text, List.append_nil] at hparse
    · intro c hc other ty hparse
      obtain ⟨after, hread, -⟩ := parse_ok_iff.1 hparse
      rw [String.toList_ofList] at hread
      exact hblocks.bars c hc other ty after hread
  · obtain ⟨expression, htext, rfl, hends⟩ := exists_expression hread
    obtain ⟨trailing, hrest⟩ := exists_gap (rfl : Parser.skipSpace rest = _)
    refine ⟨expression.text ++ trailing.letters, Parser.skipSpace rest, ?_, ?_, ?_, ?_⟩
    · rw [List.append_assoc, ← hrest, ← htext, String.ofList_toList]
    · rw [← Parser.byteSize_append_sub _ (Parser.skipSpace rest), List.append_assoc, ← hrest, htext]
    · refine ⟨"", expression.ty, ?_⟩
      rw [String.append_empty]
      exact parse_text ⟨expression, trailing⟩
    · intro c hc other ty hparse
      obtain ⟨tail, htail⟩ := List.head?_eq_some_iff.1 hc
      have hspace := isSpace_of_skipSpace htail
      obtain ⟨after, hread, hafter⟩ := parse_ok_iff.1 hparse
      rw [String.toList_ofList, List.append_assoc] at hread
      rw [hrest, htail] at hends
      obtain ⟨-, rfl⟩ := (reads_of_endsAt expression (hends.follow hspace other)).unique hread
      rw [skipSpace_mark trailing hspace] at hafter
      cases hafter

theorem Viable.size_le {before left : List Char} {longer rest : String} (h : Viable longer)
    (hbars : ∀ c ∈ left.head?, ∀ other ty, parse (String.ofList (before ++ c :: other)) ≠ .ok ty)
    (htext : String.ofList (before ++ left) = longer ++ rest) :
    longer.utf8ByteSize ≤ (String.ofList before).utf8ByteSize := by
  have hletters := congrArg String.toList htext
  rw [String.toList_ofList, String.toList_append] at hletters
  rcases List.append_eq_append_iff.1 hletters with ⟨beyond, hbeyond, hleft⟩ | ⟨missing, hmissing, -⟩
  · have hlonger : longer = String.ofList (before ++ beyond) := by
      rw [← hbeyond, String.ofList_toList]
    cases beyond with
    | nil => exact Nat.le_of_eq (by rw [hlonger, List.append_nil])
    | cons c beyond =>
      obtain ⟨more, ty, hparse⟩ := h
      have hwhole : longer ++ more = String.ofList (before ++ c :: (beyond ++ more.toList)) := by
        rw [hlonger, ← String.toList_inj]
        simp
      exact absurd (hwhole ▸ hparse) (hbars c (by rw [hleft]; rfl) _ ty)
  · rw [hmissing, String.ofList_append, String.utf8ByteSize_append, String.ofList_toList]
    omega

/-- Where a text is refused for what stands at a place, the place is between two characters of the
text or at its end, and it is that of the first impossible character: what stands before it is the
longest beginning of the text that can be gone on with to a text that is accepted. -/
theorem offset_of_first_impossible {text : String} {flaw : Flaw} {offset : Nat}
    (h : parse text = .error flaw) (hoffset : flaw.offset? = some offset) :
    (String.Pos.Raw.mk offset).IsValid text ∧ offset ≤ text.utf8ByteSize ∧
      ∃ start, LongestViable text start ∧ start.utf8ByteSize = offset := by
  obtain ⟨before, left, rfl, rfl, hviable, hbars⟩ := exists_before h hoffset
  have hvalid : (String.ofList before).rawEndPos.IsValid (String.ofList (before ++ left)) :=
    String.Pos.Raw.isValid_iff_exists_append.2 ⟨_, _, String.ofList_append, rfl⟩
  refine ⟨hvalid, hvalid.le_rawEndPos, String.ofList before, ⟨?_, hviable, ?_⟩, rfl⟩
  · exact ⟨_, String.ofList_append⟩
  · exact fun longer rest htext hlonger => hlonger.size_le hbars htext

/-- The accented letter takes two bytes, so the numeral that begins no name stands at the third. -/
theorem offset_of_first_impossible_accented :
    ∃ flaw, parse "é<1" = .error flaw ∧ flaw.offset? = some 3 ∧
      (String.Pos.Raw.mk 3).IsValid "é<1" ∧ 3 ≤ "é<1".utf8ByteSize ∧
        ∃ start, LongestViable "é<1" start ∧ start.utf8ByteSize = 3 := by
  have hread : (match parse "é<1" with
      | .ok _ => none
      | .error flaw => flaw.offset?) = some 3 := by decide +kernel
  split at hread
  · cases hread
  · next flaw hparse => exact ⟨flaw, hparse, hread, offset_of_first_impossible hparse hread⟩

end Fixture.Ty

/-!
# Patterns of file names

A pattern is a path in which a name may leave characters open: any one, any number, one of a set or
one outside it. A name of two stars stands for folders of any depth.
-/

namespace Fixture.Files

inductive Token where
  | char (c : Char)
  | anyChar
  | anyText
  /-- Two stars: any folders. -/
  | anyFolders
  | oneOf (ranges : List (Char × Char))
  | noneOf (ranges : List (Char × Char))
  deriving BEq

/-- One name of a pattern. -/
abbrev Pattern := List Token

namespace Pattern

inductive Mistake where
  | tooManyStars
  | starsWithinName
  | openSet

/-- A mistake in a pattern, with the number of characters before it. -/
structure Flaw where
  position : Nat
  mistake : Mistake

namespace Flaw

def message (self : Flaw) : String :=
  let position := self.position
  s!"Pattern syntax error near position {position}: " ++
    match self.mistake with
    | .tooManyStars => "wildcards are either regular `*` or recursive `**`"
    | .starsWithinName => "recursive wildcards must form a single path component"
    | .openSet => "invalid range pattern"

end Flaw

/-- The ranges of a set; a character that is not part of a range is a range of its own. -/
def ranges : List Char → List (Char × Char)
  | first :: '-' :: last :: rest => (first, last) :: ranges rest
  | c :: rest => (c, c) :: ranges rest
  | [] => []

/-- The set after an opening bracket and what follows it; its first character may be a closing
bracket. -/
def set? : List Char → Option (Token × List Char)
  | '!' :: first :: rest =>
    if rest.contains ']' then
      some (.noneOf (ranges (first :: rest.takeWhile (· != ']'))), (rest.dropWhile (· != ']')).drop 1)
    else none
  | '!' :: [] => none
  | first :: rest =>
    if rest.contains ']' then
      some (.oneOf (ranges (first :: rest.takeWhile (· != ']'))), (rest.dropWhile (· != ']')).drop 1)
    else none
  | [] => none

theorem length_lt_of_set? {text rest : List Char} {token : Token}
    (h : set? text = some (token, rest)) : rest.length < text.length := by
  have shrinks (l : List Char) : ((l.dropWhile (· != ']')).drop 1).length ≤ l.length := by
    have := (List.dropWhile_suffix (· != ']') (l := l)).length_le
    simp only [List.length_drop]
    omega
  unfold set? at h
  split at h
  · rename_i first rest'
    split at h
    · simp only [Option.some.injEq, Prod.mk.injEq] at h
      rw [← h.2]
      have := shrinks rest'
      simp only [List.length_cons]
      omega
    · simp at h
  · simp at h
  · rename_i first rest' _ _
    split at h
    · simp only [Option.some.injEq, Prod.mk.injEq] at h
      rw [← h.2]
      have := shrinks rest'
      simp only [List.length_cons]
      omega
    · simp at h
  · simp at h

/-- The tokens of a text from a position on, behind a given character. -/
def tokens (position : Nat) (before : Option Char) : List Char → Except Flaw Pattern
  | [] => .ok []
  | '?' :: rest => (tokens (position + 1) (some '?') rest).map (.anyChar :: ·)
  | '*' :: '*' :: '*' :: _ => .error ⟨position + 2, .tooManyStars⟩
  | '*' :: '*' :: rest =>
    if before == none || before == some '/' then
      match rest with
      | [] => .ok [.anyFolders]
      | '/' :: rest => (tokens (position + 3) (some '/') rest).map (.anyFolders :: ·)
      | _ => .error ⟨position + 2, .starsWithinName⟩
    else .error ⟨position - 1, .starsWithinName⟩
  | '*' :: rest => (tokens (position + 1) (some '*') rest).map (.anyText :: ·)
  | '[' :: rest =>
    match h : set? rest with
    | none => .error ⟨position, .openSet⟩
    | some (token, behind) =>
      have := length_lt_of_set? h
      (tokens (position + 1 + (rest.length - behind.length)) (some ']') behind).map (token :: ·)
  | c :: rest => (tokens (position + 1) (some c) rest).map (.char c :: ·)
termination_by text => text.length

def ofText (text : String) : Except Flaw Pattern := tokens 0 none text.toList

end Pattern

namespace Token

def inRanges (ranges : List (Char × Char)) (c : Char) : Bool :=
  ranges.any fun range => range.1 ≤ c && c ≤ range.2

/-- A token for one character admits it. -/
def admits : Token → Char → Bool
  | char expected, c => expected == c
  | anyChar, _ => true
  | oneOf ranges, c => inRanges ranges c
  | noneOf ranges, c => !inRanges ranges c
  | anyText, _ => false
  | anyFolders, _ => false

end Token

namespace Pattern

/-- For every place in a text, from its front to behind its end, whether it or a later one is
marked. -/
def marksFrom : List Bool → List Bool
  | [] => []
  | mark :: later =>
    let rest := marksFrom later
    (mark || rest.headD false) :: rest

/-- For every place in a text, from its front to behind its end, whether the pattern covers what
follows it. Every token is held once against every character, so many open names cost no more than
the product of both lengths. -/
def coverage : Pattern → List Char → List Bool
  | [], text => text.map (fun _ => false) ++ [true]
  | .anyText :: tokens, text => marksFrom (coverage tokens text)
  | token :: tokens, text =>
    List.zipWith (fun c later => token.admits c && later) text (coverage tokens text).tail ++ [false]

def covers (pattern : Pattern) (text : List Char) : Bool := (coverage pattern text).headD false

theorem length_marksFrom (marks : List Bool) : (marksFrom marks).length = marks.length := by
  induction marks with
  | nil => rfl
  | cons mark later ih => rw [marksFrom, List.length_cons, List.length_cons, ih]

theorem length_coverage (pattern : Pattern) (text : List Char) :
    (coverage pattern text).length = text.length + 1 := by
  fun_induction coverage pattern text with
  | case1 text => simp
  | case2 tokens text ih => rw [length_marksFrom, ih]
  | case3 token tokens text _ ih => simp [ih]

theorem coverage_nil (pattern : Pattern) : coverage pattern [] = [covers pattern []] := by
  obtain ⟨mark, hmark⟩ := List.length_eq_one_iff.1 (length_coverage pattern [])
  rw [covers, hmark]
  rfl

/-- What a pattern covers behind the first character does not depend on that character. -/
theorem coverage_cons (pattern : Pattern) (c : Char) (text : List Char) :
    coverage pattern (c :: text) = covers pattern (c :: text) :: coverage pattern text := by
  fun_induction coverage pattern text with
  | case1 text => rfl
  | case2 tokens text ih =>
    rw [covers, coverage, ih, marksFrom]
    rfl
  | case3 token tokens text hany ih =>
    obtain ⟨later, others, hlater⟩ :=
      List.exists_cons_of_length_eq_add_one (length_coverage tokens text)
    rw [covers, coverage, ih, hlater]
    · rfl
    · exact hany

@[simp] theorem covers_nil (text : List Char) : covers [] text = text.isEmpty := by
  cases text <;> rfl

@[simp] theorem covers_anyText_nil (tokens : Pattern) :
    covers (.anyText :: tokens) [] = covers tokens [] := by
  rw [covers, coverage, coverage_nil]
  exact Bool.or_false _

/-- Open characters end here or take one more. -/
@[simp] theorem covers_anyText_cons (tokens : Pattern) (c : Char) (text : List Char) :
    covers (.anyText :: tokens) (c :: text) =
      (covers tokens (c :: text) || covers (.anyText :: tokens) text) := by
  rw [covers, coverage, coverage_cons, marksFrom]
  rfl

/-- Any other token takes exactly one character. -/
theorem covers_cons_nil {token : Token} (h : token ≠ .anyText) (tokens : Pattern) :
    covers (token :: tokens) [] = false := by
  rw [covers, coverage]
  · rfl
  · exact h

theorem covers_cons_cons {token : Token} (h : token ≠ .anyText) (tokens : Pattern) (c : Char)
    (text : List Char) :
    covers (token :: tokens) (c :: text) = (token.admits c && covers tokens text) := by
  obtain ⟨later, others, hlater⟩ :=
    List.exists_cons_of_length_eq_add_one (length_coverage tokens text)
  rw [covers, covers, coverage, coverage_cons, hlater]
  · rfl
  · exact h

/-- The name that a pattern without open characters stands for. -/
def literal? (pattern : Pattern) : Option String :=
  (pattern.mapM char?).map String.ofList
where
  char? : Token → Option Char
    | .char c => some c
    | _ => none

def isAnyFolders (pattern : Pattern) : Bool := pattern.contains .anyFolders

end Pattern

end Fixture.Files

import Fixture.Proofs.Literal.Reader
import Mathlib.Algebra.Ring.Parity
import Mathlib.Tactic.Tauto

/-!
# String literals are read back

A literal is written character by character, and each character is spelled in one of three ways: by
a backslash and a mark, by itself, or by its units. `escape_cases` says which, and nothing below
looks at the spelling again. Each of the three leaves an even number of backslashes in front of what
follows, so the replacement of units starts every character in the same state; and what it leaves of
the character is read as the units of the character.
-/

namespace Fixture.Literal

/-- The UTF-16 units of a text. -/
def textUnits (text : String) : List Nat := text.toList.flatMap units

/-! ### Digits -/

def digit (value : Nat) : Char := (Nat.digitChar value).toUpper

theorem hex_one {number : Nat} (h : number < 16) : hex 1 number = [Nat.digitChar number] := by
  simp [hex, Nat.toDigits_of_lt_base h]

theorem hex_succ (width number : Nat) :
    hex (width + 2) number = hex (width + 1) (number / 16) ++ [Nat.digitChar (number % 16)] := by
  by_cases h : number < 16
  · have hdiv : number / 16 = 0 := by omega
    have hmod : number % 16 = number := by omega
    have hzero : Nat.toDigits 16 0 = ['0'] := rfl
    simp only [hex, hdiv, hmod, hzero, Nat.toDigits_of_lt_base h, List.length_singleton,
      Nat.add_sub_cancel, List.append_cancel_right_eq]
    exact List.replicate_succ'
  · have hdigits : Nat.toDigits 16 number = _ := Nat.toDigits_of_base_le (by decide) (by omega)
    simp [hex, hdigits]

theorem unitEscape_eq {unit : Nat} (h : unit < 0x10000) :
    unitEscape unit = ['\\', 'u', digit (unit / 16 / 16 / 16), digit (unit / 16 / 16 % 16),
      digit (unit / 16 % 16), digit (unit % 16)] := by
  have hfirst : unit / 16 / 16 / 16 < 16 := by omega
  simp [unitEscape, hex_succ, hex_one hfirst, digit]

theorem hexValue?_digit : ∀ value < 16, hexValue? (digit value) = some value := by decide

theorem digit_cases :
    ∀ value < 16, digit value ≠ 'u' ∧ digit value ≠ '\\' ∧ digit value ≠ '"' ∧
      ' ' ≤ digit value ∧ digit value ≤ '~' := by decide

/-! ### Characters -/

theorem toNat_lt (c : Char) : c.toNat < 0x110000 := by
  have hvalid := c.valid
  simp only [UInt32.isValidChar, Nat.isValidChar] at hvalid
  simp only [Char.toNat]
  omega

theorem units_lt (c : Char) : ∀ unit ∈ units c, unit < 0x10000 := by
  have hpoint := toNat_lt c
  intro unit hunit
  simp only [units] at hunit
  split at hunit <;> simp at hunit <;> omega

theorem units_of_ascii {c : Char} (h : c ≤ '~') : units c = [c.toNat] := by
  have hle : c.toNat ≤ '~'.toNat := h
  have hlt : c.toNat < 0x10000 := Nat.lt_of_le_of_lt hle (by decide)
  simp [units, hlt]

/-- The units that are not read as themselves inside a literal. -/
def specials : List Nat := ['\n'.toNat, '\r'.toNat, '"'.toNat, '\\'.toNat]

theorem escape_cases (c : Char) :
    (∃ mark ≤ '~', escape c = ['\\', mark] ∧ mark ≠ 'u' ∧ ' ' ≤ mark ∧
        shortEscape? mark.toNat = some c.toNat ∧ c ≤ '~') ∨
      (escape c = [c] ∧ ' ' ≤ c ∧ c ≤ '~' ∧ c ≠ '"' ∧ c ≠ '\\') ∨
        (escape c = (units c).flatMap unitEscape ∧
          ∀ unit ∈ units c, unit ∉ specials) := by
  simp only [escape, beq_iff_eq, Bool.and_eq_true, decide_eq_true_eq]
  iterate 7
    split
    · next hc =>
      subst hc
      exact .inl ⟨_, by decide, rfl, by decide, by decide, by decide, by decide⟩
  split
  · next hshown => exact .inr (.inl ⟨rfl, hshown.1, hshown.2, by assumption, by assumption⟩)
  · next hquote hbackslash hline hreturn _ _ _ _ =>
    refine .inr (.inr ⟨rfl, fun unit hunit hmem => ?_⟩)
    simp only [specials, List.mem_cons, List.not_mem_nil, or_false] at hmem
    simp only [units] at hunit
    split at hunit
    · obtain rfl := List.mem_singleton.1 hunit
      simp only [Char.toNat_inj] at hmem
      tauto
    · have hlarge : 0xD800 ≤ unit := by
        simp only [List.mem_cons, List.not_mem_nil, or_false] at hunit
        omega
      have hsmall : unit ≤ '\\'.toNat := by
        rcases hmem with rfl | rfl | rfl | rfl <;> decide
      exact absurd (Nat.le_trans hlarge hsmall) (by decide)

/-! ### What is written -/

theorem shown_units (c : Char) :
    ∀ shown ∈ (units c).flatMap unitEscape, ' ' ≤ shown ∧ shown ≤ '~' := by
  intro shown hshown
  obtain ⟨unit, hunit, hmem⟩ := List.mem_flatMap.1 hshown
  have hdigit : ∀ value < 16, ' ' ≤ digit value ∧ digit value ≤ '~' := fun value hvalue =>
    (digit_cases value hvalue).2.2.2
  have hlt := units_lt c unit hunit
  rw [unitEscape_eq hlt] at hmem
  simp only [List.mem_cons, List.not_mem_nil, or_false] at hmem
  rcases hmem with rfl | rfl | rfl | rfl | rfl | rfl
  · decide
  · decide
  · exact hdigit _ (by omega)
  · exact hdigit _ (by omega)
  · exact hdigit _ (by omega)
  · exact hdigit _ (by omega)

theorem shown_escape (c : Char) : ∀ shown ∈ escape c, ' ' ≤ shown ∧ shown ≤ '~' := by
  intro shown hshown
  rcases escape_cases c with ⟨mark, hmark, heq, -, hspace, -⟩ | ⟨heq, hspace, hlast, -⟩ | ⟨heq, -⟩
  · rw [heq] at hshown
    simp only [List.mem_cons, List.not_mem_nil, or_false] at hshown
    rcases hshown with rfl | rfl
    · decide
    · exact ⟨hspace, hmark⟩
  · rw [heq] at hshown
    obtain rfl := List.mem_singleton.1 hshown
    exact ⟨hspace, hlast⟩
  · rw [heq] at hshown
    exact shown_units c shown hshown

/-! ### Backslashes before a quote -/

/-- The number of backslashes at the end of a text. -/
def backslashes (text : List Char) : Nat := (text.reverse.takeWhile (· == '\\')).length

/-- No quote in a text ends a literal: an odd number of backslashes stands before each. -/
def QuotesEscaped (text : List Char) : Prop :=
  ∀ before after, text = before ++ '"' :: after → Odd (backslashes before)

@[simp] theorem backslashes_nil : backslashes [] = 0 := rfl

@[simp] theorem backslashes_snoc_backslash (text : List Char) :
    backslashes (text ++ ['\\']) = backslashes text + 1 := by
  simp [backslashes]

theorem backslashes_snoc {c : Char} (h : c ≠ '\\') (text : List Char) :
    backslashes (text ++ [c]) = 0 := by
  simp [backslashes, h]

theorem quotesEscaped_snoc {text : List Char} {c : Char} (htext : QuotesEscaped text)
    (hc : c = '"' → Odd (backslashes text)) : QuotesEscaped (text ++ [c]) := by
  intro before after h
  rcases List.eq_nil_or_concat after with rfl | ⟨others, last, rfl⟩
  · obtain ⟨rfl, hlast⟩ := List.append_inj' h rfl
    exact hc (List.cons.inj hlast).1
  · rw [List.concat_eq_append, ← List.cons_append, ← List.append_assoc] at h
    exact htext before others (List.append_inj' h rfl).1

/-- Behind a part the next one starts as behind no part at all, and no quote in the part ends the
literal. -/
def Guarded (part : List Char) : Prop :=
  ∀ text, Even (backslashes text) → QuotesEscaped text →
    Even (backslashes (text ++ part)) ∧ QuotesEscaped (text ++ part)

namespace Guarded

variable {first second : List Char}

theorem nil : Guarded [] := by
  intro text heven hquotes
  rw [List.append_nil]
  exact ⟨heven, hquotes⟩

theorem append (hfirst : Guarded first) (hsecond : Guarded second) : Guarded (first ++ second) := by
  intro text heven hquotes
  rw [← List.append_assoc]
  obtain ⟨hbetween, hescaped⟩ := hfirst text heven hquotes
  exact hsecond _ hbetween hescaped

theorem flatMap {α : Type} {spell : α → List Char} {parts : List α}
    (h : ∀ part ∈ parts, Guarded (spell part)) : Guarded (parts.flatMap spell) := by
  induction parts with
  | nil => exact nil
  | cons part rest ih =>
    obtain ⟨hpart, hrest⟩ := List.forall_mem_cons.1 h
    rw [List.flatMap_cons]
    exact hpart.append (ih hrest)

theorem single {c : Char} (hquote : c ≠ '"') (hbackslash : c ≠ '\\') : Guarded [c] := by
  intro text _ hquotes
  rw [backslashes_snoc hbackslash]
  exact ⟨Even.zero, quotesEscaped_snoc hquotes fun h => absurd h hquote⟩

theorem pair (mark : Char) : Guarded ['\\', mark] := by
  intro text heven hquotes
  have hsplit : text ++ ['\\', mark] = text ++ ['\\'] ++ [mark] := by simp
  have hodd : Odd (backslashes (text ++ ['\\'])) := by
    rw [backslashes_snoc_backslash]
    exact heven.add_one
  have hescaped : QuotesEscaped (text ++ ['\\']) :=
    quotesEscaped_snoc hquotes fun h => absurd h (by decide)
  rw [hsplit]
  refine ⟨?_, quotesEscaped_snoc hescaped fun _ => hodd⟩
  by_cases h : mark = '\\'
  · rw [h, backslashes_snoc_backslash]
    exact hodd.add_one
  · rw [backslashes_snoc h]
    exact Even.zero

theorem unitEscape {unit : Nat} (h : unit < 0x10000) : Guarded (unitEscape unit) := by
  have hdigit : ∀ value < 16, Guarded [digit value] := fun value hvalue =>
    have hcases := digit_cases value hvalue
    single hcases.2.2.1 hcases.2.1
  rw [unitEscape_eq h]
  apply (pair 'u').append
  apply (hdigit _ (by omega)).append
  apply (hdigit _ (by omega)).append
  apply (hdigit _ (by omega)).append
  exact hdigit _ (by omega)

theorem escape (c : Char) : Guarded (escape c) := by
  rcases escape_cases c with ⟨mark, -, heq, -⟩ | ⟨heq, -, -, hquote, hbackslash⟩ | ⟨heq, -⟩
  · rw [heq]
    exact pair mark
  · rw [heq]
    exact single hquote hbackslash
  · rw [heq]
    exact flatMap fun unit hunit => unitEscape (units_lt c unit hunit)

end Guarded

/-! ### What is read -/

theorem translate_plain {c : Char} (h : c ≠ '\\') (odd : Bool) (rest : List Char) :
    translate odd (c :: rest) = (translate false rest).map (units c ++ ·) := by
  rw [translate, if_pos h]

theorem translate_backslash {odd : Bool} {rest : List Char}
    (h : odd = true ∨ rest.head? ≠ some 'u') :
    translate odd ('\\' :: rest) = (translate (!odd) rest).map ('\\'.toNat :: ·) := by
  rw [translate, if_neg (by simp), if_pos h]

theorem translate_unit {unit : Nat} {rest after : List Char}
    (h : spelledUnit? ('u' :: rest) = some (unit, after)) :
    translate false ('\\' :: 'u' :: rest) = (translate false after).map (unit :: ·) := by
  rw [translate, if_neg (by simp), if_neg (by simp)]
  split
  · next hnone =>
    rw [hnone] at h
    cases h
  · next hsome =>
    rw [hsome] at h
    cases h
    rfl

theorem spelledUnit?_digits {unit : Nat} (h : unit < 0x10000) (rest : List Char) :
    spelledUnit? ((unitEscape unit).tail ++ rest) = some (unit, rest) := by
  have hvalue : ∀ value < 16, hexValue? (digit value) = some value := hexValue?_digit
  have hfirst : digit (unit / 16 / 16 / 16) ≠ 'u' := (digit_cases _ (by omega)).1
  have hsum : ((unit / 16 / 16 / 16 * 16 + unit / 16 / 16 % 16) * 16 + unit / 16 % 16) * 16 +
      unit % 16 = unit := by omega
  rw [unitEscape_eq h]
  simp [spelledUnit?, hfirst, hvalue _ (show unit / 16 / 16 / 16 < 16 by omega),
    hvalue _ (show unit / 16 / 16 % 16 < 16 by omega), hvalue _ (show unit / 16 % 16 < 16 by omega),
    hvalue _ (show unit % 16 < 16 by omega), hsum]

theorem contents_plain {unit : Nat} (h : unit ∉ specials) (rest : List Nat) :
    contents ([unit] ++ rest) = (contents rest).map fun (more, left) => ([unit] ++ more, left) := by
  simp only [specials, List.mem_cons, List.not_mem_nil, or_false, not_or] at h
  rw [List.singleton_append, contents, if_neg h.2.2.1, if_neg (by tauto), if_neg h.2.2.2]
  rfl

theorem contents_escape {mark value : Nat} (h : shortEscape? mark = some value) (rest : List Nat) :
    contents (['\\'.toNat, mark] ++ rest) =
      (contents rest).map fun (more, left) => ([value] ++ more, left) := by
  have hescaped : escaped? (mark :: rest) = some (value, rest) := by
    simp [escaped?, h]
  rw [List.cons_append, List.singleton_append, contents, if_neg (by decide), if_neg (by decide),
    if_pos rfl]
  split
  · next hnone =>
    rw [hnone] at hescaped
    cases hescaped
  · next hsome =>
    rw [hsome] at hescaped
    cases hescaped
    rfl

/-- What the first stage leaves of a part of a literal is read as these values. -/
def Spells (part : List Char) (values : List Nat) : Prop :=
  ∃ between, (∀ rest, translate false (part ++ rest) = (translate false rest).map (between ++ ·)) ∧
    ∀ rest, contents (between ++ rest) =
      (contents rest).map fun (more, left) => (values ++ more, left)

namespace Spells

variable {first second : List Char} {values more : List Nat}

theorem nil : Spells [] [] := ⟨[], by simp, by simp⟩

theorem append (hfirst : Spells first values) (hsecond : Spells second more) :
    Spells (first ++ second) (values ++ more) := by
  obtain ⟨between, htranslate, hcontents⟩ := hfirst
  obtain ⟨beyond, htranslate', hcontents'⟩ := hsecond
  refine ⟨between ++ beyond, fun rest => ?_, fun rest => ?_⟩
  · rw [List.append_assoc, htranslate, htranslate', Option.map_map]
    simp [Function.comp_def]
  · rw [List.append_assoc, hcontents, hcontents', Option.map_map]
    simp [Function.comp_def]

theorem flatMap {α : Type} {spell : α → List Char} {value : α → List Nat} {parts : List α}
    (h : ∀ part ∈ parts, Spells (spell part) (value part)) :
    Spells (parts.flatMap spell) (parts.flatMap value) := by
  induction parts with
  | nil => exact nil
  | cons part rest ih =>
    obtain ⟨hpart, hrest⟩ := List.forall_mem_cons.1 h
    rw [List.flatMap_cons, List.flatMap_cons]
    exact hpart.append (ih hrest)

theorem single {c : Char} (hspace : ' ' ≤ c) (hlast : c ≤ '~') (hquote : c ≠ '"')
    (hbackslash : c ≠ '\\') : Spells [c] (units c) := by
  have hplain : c.toNat ∉ specials := by
    have hline : c ≠ '\n' := by
      rintro rfl
      exact absurd hspace (by decide)
    have hreturn : c ≠ '\r' := by
      rintro rfl
      exact absurd hspace (by decide)
    simp only [specials, List.mem_cons, List.not_mem_nil, or_false, Char.toNat_inj, not_or]
    exact ⟨hline, hreturn, hquote, hbackslash⟩
  rw [units_of_ascii hlast]
  refine ⟨[c.toNat], fun rest => ?_, contents_plain hplain⟩
  rw [List.singleton_append, translate_plain hbackslash, units_of_ascii hlast]

theorem pair {mark : Char} {value : Nat} (hu : mark ≠ 'u') (hlast : mark ≤ '~')
    (h : shortEscape? mark.toNat = some value) : Spells ['\\', mark] [value] := by
  refine ⟨['\\'.toNat, mark.toNat], fun rest => ?_, contents_escape h⟩
  have hmark : translate true (mark :: rest) = (translate false rest).map (mark.toNat :: ·) := by
    by_cases hbackslash : mark = '\\'
    · rw [hbackslash, translate_backslash (.inl rfl)]
      rfl
    · rw [translate_plain hbackslash, units_of_ascii hlast]
      rfl
  rw [List.cons_append, List.singleton_append, translate_backslash (.inr (by simpa using hu))]
  rw [Bool.not_false, hmark, Option.map_map]
  rfl

theorem unitEscape {unit : Nat} (hlt : unit < 0x10000) (h : unit ∉ specials) :
    Spells (unitEscape unit) [unit] := by
  refine ⟨[unit], fun rest => ?_, contents_plain h⟩
  have hdigits := spelledUnit?_digits hlt rest
  rw [unitEscape_eq hlt] at hdigits ⊢
  exact translate_unit hdigits

theorem escape (c : Char) : Spells (escape c) (units c) := by
  rcases escape_cases c with ⟨mark, hmark, heq, hu, -, hshort, hlast⟩ | ⟨heq, hspace, hlast,
      hquote, hbackslash⟩ | ⟨heq, hplain⟩
  · rw [heq, units_of_ascii hlast]
    exact pair hu hmark hshort
  · rw [heq]
    exact single hspace hlast hquote hbackslash
  · rw [heq]
    have hunits : Spells ((units c).flatMap Literal.unitEscape) ((units c).flatMap ([·])) :=
      flatMap fun unit hunit => unitEscape (units_lt c unit hunit) (hplain unit hunit)
    rwa [List.flatMap_singleton'] at hunits

theorem read {body : List Char} {values : List Nat} (h : Spells body values) :
    read ('"' :: (body ++ ['"'])) = some (values, []) := by
  obtain ⟨between, htranslate, hcontents⟩ := h
  have hquote : '"' ≠ '\\' := by decide
  have hall : translate false ('"' :: (body ++ ['"'])) =
      some ('"'.toNat :: (between ++ ['"'.toNat])) := by
    have hend : translate false ['"'] = some ['"'.toNat] := by
      rw [translate_plain hquote, translate]
      rfl
    rw [translate_plain hquote, htranslate, hend]
    rfl
  have hvalue : contents (between ++ ['"'.toNat]) = some (values, []) := by
    have hend : contents ['"'.toNat] = some ([], []) := by
      rw [contents, if_pos rfl]
    rw [hcontents, hend]
    simp
  have hblock : (between ++ ['"'.toNat]).take 2 ≠ ['"'.toNat, '"'.toNat] := by
    intro htwo
    obtain ⟨rest, hrest⟩ : ∃ rest, between ++ ['"'.toNat] = '"'.toNat :: '"'.toNat :: rest :=
      ⟨(between ++ ['"'.toNat]).drop 2, by rw [← List.take_append_drop 2 (between ++ _), htwo]; rfl⟩
    rw [hrest, contents, if_pos rfl] at hvalue
    cases hvalue
  rw [Literal.read, hall]
  simp only [Option.bind_eq_bind, Option.bind_some, List.head?_cons, ne_eq, not_true_eq_false,
    List.take_succ_cons, List.cons.injEq, true_and, false_or, List.tail_cons]
  rw [if_neg hblock, hvalue]

end Spells

/-! ### Units -/

theorem ofUnits_units (c : Char) (rest : List Nat) :
    ofUnits (units c ++ rest) = (ofUnits rest).map (c :: ·) := by
  have hvalid : c.toNat < 0xD800 ∨ 0xDFFF < c.toNat ∧ c.toNat < 0x110000 := c.valid
  simp only [units]
  split
  · next hlt =>
    have hsingle : c.toNat < 0xD800 ∨ 0xE000 ≤ c.toNat ∧ c.toNat < 0x10000 := by omega
    rw [List.singleton_append, ofUnits.eq_def]
    dsimp only
    rw [if_pos hsingle, Char.ofNat_toNat]
  · next hle =>
    have hpoint : 0x10000 + (0xD800 + (c.toNat - 0x10000) / 0x400 - 0xD800) * 0x400 +
        (0xDC00 + (c.toNat - 0x10000) % 0x400 - 0xDC00) = c.toNat := by omega
    rw [List.cons_append, List.singleton_append, ofUnits, if_neg (by omega), if_pos (by omega),
      hpoint, Char.ofNat_toNat]

theorem ofUnits_textUnits (text : String) : ofUnits (textUnits text) = some text.toList := by
  rw [textUnits]
  induction text.toList with
  | nil => rfl
  | cons c rest ih =>
    rw [List.flatMap_cons, ofUnits_units, ih]
    rfl

theorem quote_toList (text : String) :
    (quote text).toList = '"' :: (text.toList.flatMap escape ++ ['"']) := by
  simp [quote]

/-- The literal of a text is printable, ends with the first quote in it that no backslash escapes,
and is read back, all of it, as the UTF-16 units of the text. -/
theorem quote_read_back (text : String) :
    (∀ c ∈ (quote text).toList, ' ' ≤ c ∧ c ≤ '~') ∧
      (∃ body, (quote text).toList = '"' :: (body ++ ['"']) ∧ QuotesEscaped body) ∧
        read (quote text).toList = some (textUnits text, []) ∧
          ofUnits (textUnits text) = some text.toList := by
  have hguarded : Guarded (text.toList.flatMap escape) := .flatMap fun c _ => .escape c
  have hspells : Spells (text.toList.flatMap escape) (textUnits text) :=
    .flatMap fun c _ => .escape c
  have hquotes : QuotesEscaped [] := by
    intro before after h
    simp at h
  rw [quote_toList]
  refine ⟨fun c hc => ?_, ⟨_, rfl, ?_⟩, hspells.read, ofUnits_textUnits text⟩
  · simp only [List.mem_cons, List.mem_append, List.mem_flatMap, List.not_mem_nil, or_false] at hc
    rcases hc with rfl | ⟨source, -, hc⟩ | rfl
    · decide
    · exact shown_escape source c hc
    · decide
  · exact (hguarded [] Even.zero hquotes).2

end Fixture.Literal

import Fixture.Literal
import Mathlib.Data.List.Basic

/-!
# Texts without escapes

A text of letters, digits and such marks as join them is its own spelling: a literal of it is the
text between quotes. The texts that are drawn are of this sort.
-/

namespace Fixture.Literal

/-- A character that is spelled by itself. -/
structure Plain (c : Char) : Prop where
  first_le : ' ' ≤ c
  le_last : c ≤ '~'
  ne_quote : c ≠ '"'
  ne_backslash : c ≠ '\\'

/-- A digit as it is written in hexadecimal texts of lower case. -/
def IsHexDigit (c : Char) : Prop := '0' ≤ c ∧ c ≤ '9' ∨ 'a' ≤ c ∧ c ≤ 'f'

instance : DecidablePred IsHexDigit := fun _ => inferInstanceAs (Decidable (_ ∨ _))

variable {c : Char}

theorem plain_iff_toNat :
    Plain c ↔ 32 ≤ c.toNat ∧ c.toNat ≤ 126 ∧ c.toNat ≠ 34 ∧ c.toNat ≠ 92 := by
  have hquote : c ≠ '"' ↔ c.toNat ≠ 34 := not_congr Char.toNat_inj.symm
  have hbackslash : c ≠ '\\' ↔ c.toNat ≠ 92 := not_congr Char.toNat_inj.symm
  constructor
  · rintro ⟨hfirst, hlast, hne, hne'⟩
    exact ⟨hfirst, hlast, hquote.1 hne, hbackslash.1 hne'⟩
  · rintro ⟨hfirst, hlast, hne, hne'⟩
    exact ⟨hfirst, hlast, hquote.2 hne, hbackslash.2 hne'⟩

instance : DecidablePred Plain := fun _ => decidable_of_iff' _ plain_iff_toNat

theorem Plain.escape (h : Plain c) : escape c = [c] := by
  obtain ⟨hfirst, hlast, hquote, hbackslash⟩ := h
  have hcontrol : ∀ control < ' ', c ≠ control := by
    rintro control hlt rfl
    exact absurd hfirst (Char.not_le.2 hlt)
  simp [Literal.escape, hquote, hbackslash, hcontrol '\n' (by decide), hcontrol '\r' (by decide),
    hcontrol '\t' (by decide), hcontrol '\x08' (by decide), hcontrol '\x0c' (by decide), hfirst,
    hlast]

theorem quote_of_plain {text : String} (h : ∀ c ∈ text.toList, Plain c) :
    quote text = "\"" ++ text ++ "\"" := by
  have hsame : text.toList.flatMap escape = text.toList := by
    rw [List.flatMap_congr fun c hc => (h c hc).escape, List.flatMap_singleton']
  rw [quote, hsame]
  apply String.toList_inj.1
  simp

/-! ### Letters and digits -/

theorem plain_of_isDigit (h : c.isDigit = true) : Plain c := by
  obtain ⟨hfirst, hlast⟩ := Char.isDigit_iff_toNat.1 h
  have hfirst : 48 ≤ c.toNat := hfirst
  have hlast : c.toNat ≤ 57 := hlast
  rw [plain_iff_toNat]
  omega

theorem plain_of_isAlpha (h : c.isAlpha = true) : Plain c := by
  have hcases : c.isUpper = true ∨ c.isLower = true := Bool.or_eq_true_iff.1 h
  rw [plain_iff_toNat]
  rcases hcases with hupper | hlower
  · obtain ⟨hfirst, hlast⟩ : 65 ≤ c.toNat ∧ c.toNat ≤ 90 := of_decide_eq_true hupper
    omega
  · obtain ⟨hfirst, hlast⟩ := Bool.and_eq_true_iff.1 hlower
    have hfirst : 97 ≤ c.toNat := of_decide_eq_true hfirst
    have hlast : c.toNat ≤ 122 := of_decide_eq_true hlast
    omega

theorem plain_of_isHexDigit (h : IsHexDigit c) : Plain c := by
  have hcases : 48 ≤ c.toNat ∧ c.toNat ≤ 57 ∨ 97 ≤ c.toNat ∧ c.toNat ≤ 102 := h
  rw [plain_iff_toNat]
  omega

end Fixture.Literal

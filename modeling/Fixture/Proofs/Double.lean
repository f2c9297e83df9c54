import Fixture.Proofs.Decimal.Rounding
import Fixture.Proofs.Random.Below
import Fixture.Proofs.Registry

/-!
# Doubles up to one hundred

A double is a hundred times a fraction of 2 ^ 52, rounded twice: the product to a double, and the
double to hundredths when it is written. The first rounding moves the product by less than what the
largest fraction leaves below one hundred, so the double itself is always smaller. The second one
moves it by up to half a hundredth. So the literals denote numbers below one hundred except where
the exact product is not below 99.995, and there they are one hundred. Everything is counted in
units of 2 ^ -52, in whole numbers.
-/

namespace Fixture

open Fixture.Random

namespace Literal

/-! ### Hundredths are read back -/

/-- The hundredths that a decimal denotes: digits, a point and exactly two digits more. -/
def hundredths? (text : List Char) : Option Nat :=
  let whole := text.takeWhile Char.isDigit
  match text.dropWhile Char.isDigit with
  | ['.', tenth, hundredth] =>
    if whole ≠ [] ∧ tenth.isDigit ∧ hundredth.isDigit then
      some (Nat.ofDigitChars 10 (whole ++ [tenth, hundredth]) 0)
    else none
  | _ => none

theorem hundredths?_of_isDigit {whole : List Char} {tenth hundredth : Char} (hne : whole ≠ [])
    (hwhole : ∀ c ∈ whole, c.isDigit = true) (htenth : tenth.isDigit = true)
    (hhundredth : hundredth.isDigit = true) :
    hundredths? (whole ++ ['.', tenth, hundredth]) =
      some (Nat.ofDigitChars 10 (whole ++ [tenth, hundredth]) 0) := by
  have htaken : (whole ++ ['.', tenth, hundredth]).takeWhile Char.isDigit = whole := by
    rw [List.takeWhile_append_of_pos hwhole, List.takeWhile_cons_of_neg (by decide),
      List.append_nil]
  have hleft : (whole ++ ['.', tenth, hundredth]).dropWhile Char.isDigit =
      ['.', tenth, hundredth] := by
    rw [List.dropWhile_append_of_pos hwhole, List.dropWhile_cons_of_neg (by decide)]
  rw [hundredths?, htaken, hleft]
  exact if_pos ⟨hne, htenth, hhundredth⟩

theorem digitChar_of_lt : ∀ value < 10,
    (Nat.digitChar value).isDigit = true ∧ (Nat.digitChar value).toNat - '0'.toNat = value := by
  decide

theorem toList_places {places : Nat} (h : places < 100) :
    ((if places < 10 then "0" else "") ++ Nat.repr places).toList =
      [Nat.digitChar (places / 10), Nat.digitChar (places % 10)] := by
  rw [String.toList_append, Nat.toList_repr]
  by_cases hone : places < 10
  · rw [if_pos hone, Nat.toDigits_of_lt_base hone, Nat.div_eq_of_lt hone, Nat.mod_eq_of_lt hone]
    rfl
  · have htens : places / 10 < 10 := by omega
    rw [if_neg hone, Nat.toDigits_of_base_le (by decide) (by omega), Nat.toDigits_of_lt_base htens]
    rfl

theorem toList_hundredths (number : Nat) :
    (hundredths number).toList = Nat.toDigits 10 (number / 100) ++
      ['.', Nat.digitChar (number % 100 / 10), Nat.digitChar (number % 10)] := by
  have hplaces := toList_places (Nat.mod_lt number (by decide : 0 < 100))
  have hlast : number % 100 % 10 = number % 10 := by omega
  rw [hlast] at hplaces
  rw [hundredths, String.append_assoc, String.toList_append, hplaces, String.toList_append,
    Nat.toList_repr, List.append_assoc]
  rfl

theorem hundredths?_hundredths (number : Nat) :
    hundredths? (hundredths number).toList = some number := by
  have hwhole : ∀ c ∈ Nat.toDigits 10 (number / 100), c.isDigit = true :=
    fun c => Nat.isDigit_of_mem_toDigits (by decide) (by decide)
  obtain ⟨htenth, htenthValue⟩ := digitChar_of_lt (number % 100 / 10) (by omega)
  obtain ⟨hlast, hlastValue⟩ := digitChar_of_lt (number % 10) (by omega)
  rw [toList_hundredths, hundredths?_of_isDigit Nat.toDigits_ne_nil hwhole htenth hlast,
    Nat.ofDigitChars_append, Nat.ofDigitChars_ten_toDigits, Nat.ofDigitChars_cons,
    Nat.ofDigitChars_cons, Nat.ofDigitChars_nil, htenthValue, hlastValue]
  congr 1
  omega

theorem hundredths_hundred : hundredths (100 * 100) = "100.00" := by decide

/-! ### Both roundings -/

variable {fraction : Nat}

/-- The product and the double next to it are at most 2 ^ -47 apart. -/
theorem product_bounds (h : fraction < Nat.pow 2 52) :
    Decimal.roundBits 53 (100 * fraction) ≤ 100 * fraction + 32 ∧
      100 * fraction ≤ Decimal.roundBits 53 (100 * fraction) + 32 := by
  have hfraction : fraction < 2 ^ 52 := h
  have hplace : Decimal.lastPlace 53 (100 * fraction) ≤ 2 ^ 6 :=
    Decimal.lastPlace_le (by decide) (by omega)
  obtain ⟨hle, hge⟩ := Decimal.roundBits_bounds 53 (100 * fraction)
  omega

theorem product_lt (h : fraction < Nat.pow 2 52) :
    Decimal.roundBits 53 (100 * fraction) < 100 * Nat.pow 2 52 := by
  have hfraction : fraction < 2 ^ 52 := h
  have hbounds := product_bounds h
  show _ < 100 * 2 ^ 52
  omega

theorem percentHundredths_le (h : fraction < Nat.pow 2 52) :
    percentHundredths fraction ≤ 100 * 100 := by
  have hproduct := product_lt h
  apply Decimal.roundDiv_le (by decide)
  omega

/-- Half a hundredth below one hundred is where the literals reach it. -/
theorem percentHundredths_lt_iff (h : fraction < Nat.pow 2 52) :
    percentHundredths fraction < 100 * 100 ↔ 20000 * fraction < 19999 * Nat.pow 2 52 := by
  have hbounds := product_bounds h
  rw [percentHundredths, Decimal.roundDiv_lt_iff_of_even (by decide) (by decide)]
  -- the products next to the middle are farther from it than the first rounding reaches
  show _ < 2 * (100 * 100 * 2 ^ 52) ↔ _ < 19999 * 2 ^ 52
  have hpow : Nat.pow 2 52 = 2 ^ 52 := rfl
  omega

end Literal

/-! ### The literals of doubles -/

namespace Registry

theorem literal_of_double {catalog : Catalog} {name : String}
    (hkind : builtin.kind? catalog name = some "Double" ∨
      builtin.kind? catalog name = some "double") (supply : Supply) :
    ((builtin.literal catalog name).run.run supply).1 = .ok (Literal.hundredths
      (Literal.percentHundredths ((next64 supply.source).1 / Nat.pow 2 12)) ++ "d") := by
  rcases hkind with hkind | hkind
  all_goals exact congrArg Prod.fst (literal_of_kind hkind rfl supply)

/-- A literal of a double is a decimal with exactly two places. The upper 52 bits of a word are the
fraction of one hundred that it stands for. The product is rounded to 53 binary digits, which leaves
it below one hundred, and then to hundredths. The number that is denoted is below one hundred if and
only if the exact product is below 99.995, and all other products are written as one hundred. -/
theorem literal_double (catalog : Catalog) (name : String) (supply : Supply)
    (hkind : builtin.kind? catalog name = some "Double" ∨
      builtin.kind? catalog name = some "double") :
    let mantissa := (next64 supply.source).1 / Nat.pow 2 12
    let sample := Decimal.roundBits 53 (100 * mantissa)
    let number := Decimal.roundDiv (100 * sample) (Nat.pow 2 52)
    let drawn := ((builtin.literal catalog name).run.run supply).1
    mantissa < Nat.pow 2 52 ∧
      Decimal.NearestBits 53 (100 * mantissa) sample ∧ sample < 100 * Nat.pow 2 52 ∧
      Decimal.Nearest (100 * sample) (Nat.pow 2 52) number ∧
      (∃ decimal : String, drawn = .ok (decimal ++ "d") ∧
        Literal.hundredths? decimal.toList = some number) ∧
      (number < 100 * 100 ↔ 20000 * mantissa < 19999 * Nat.pow 2 52) ∧
      (19999 * Nat.pow 2 52 ≤ 20000 * mantissa → drawn = .ok "100.00d") := by
  intro mantissa sample number drawn
  have hmantissa : mantissa < Nat.pow 2 52 := Nat.div_lt_of_lt_mul (next64_lt supply.source)
  have hdrawn : drawn = .ok (Literal.hundredths number ++ "d") := literal_of_double hkind supply
  have hlt : number < 100 * 100 ↔ 20000 * mantissa < 19999 * Nat.pow 2 52 :=
    Literal.percentHundredths_lt_iff hmantissa
  refine ⟨hmantissa, Decimal.nearestBits_roundBits (by decide) _, Literal.product_lt hmantissa,
    Decimal.nearest_roundDiv (by decide) _,
    ⟨_, hdrawn, Literal.hundredths?_hundredths number⟩, hlt, fun hmiddle => ?_⟩
  have hle : number ≤ 100 * 100 := Literal.percentHundredths_le hmantissa
  have hge : 100 * 100 ≤ number := Nat.le_of_not_lt fun h => Nat.not_lt.2 hmiddle (hlt.1 h)
  rw [hdrawn, Nat.le_antisymm hle hge, Literal.hundredths_hundred]
  rfl

/-- Words of the largest fraction whose literal is below one hundred, and of the next one. -/
def brim : Supply :=
  ⟨⟨([0xA29C7000, 0xFFFCB923, 0xA29C8000, 0xFFFCB923].getD · 0), 0, 0⟩, .ofInstant 0⟩

theorem literal_double_brim :
    builtin.kind? .empty "java.lang.Double" = some "Double" ∧
      (∃ decimal : String,
        ((builtin.literal .empty "java.lang.Double").run.run brim).1 = .ok (decimal ++ "d") ∧
          Literal.hundredths? decimal.toList = some 9999) ∧
      ((builtin.literal .empty "double").run.run { brim with source := (next64 brim.source).2 }).1 =
        .ok "100.00d" := by
  have hkind : builtin.kind? .empty "java.lang.Double" = some "Double" := by decide +kernel
  obtain ⟨-, -, -, -, hdecimal, -⟩ := literal_double .empty "java.lang.Double" brim (.inl hkind)
  obtain ⟨-, -, -, -, -, -, hhundred⟩ :=
    literal_double .empty "double" { brim with source := (next64 brim.source).2 } (.inr rfl)
  have hnumber : Decimal.roundDiv (100 * Decimal.roundBits 53
      (100 * ((next64 brim.source).1 / Nat.pow 2 12))) (Nat.pow 2 52) = 9999 := by decide +kernel
  rw [hnumber] at hdecimal
  exact ⟨hkind, hdecimal, hhundred (by decide +kernel)⟩

/-- The words of a seed may begin with a fraction that is written as one hundred. -/
theorem literal_double_hundred :
    ((builtin.literal .empty "Double").run.run (.seeded 8604)).1 = .ok "100.00d" ∧
      ¬ ∃ (decimal : String) (number : Nat),
        ((builtin.literal .empty "Double").run.run (.seeded 8604)).1 = .ok (decimal ++ "d") ∧
          Literal.hundredths? decimal.toList = some number ∧ number < 100 * 100 := by
  have hnumber : Literal.percentHundredths
      ((next64 (Supply.seeded 8604).source).1 / Nat.pow 2 12) = 100 * 100 := by decide +kernel
  have hdrawn : ((builtin.literal .empty "Double").run.run (.seeded 8604)).1 = _ :=
    literal_of_double (.inl rfl) _
  rw [hnumber] at hdrawn
  refine ⟨by rw [hdrawn, Literal.hundredths_hundred]; rfl, ?_⟩
  rintro ⟨decimal, number, hdecimal, hread, hlt⟩
  have hsame : Literal.hundredths (100 * 100) = decimal :=
    (String.append_left_inj "d").1 (Except.ok.inj (hdrawn.symm.trans hdecimal))
  rw [← hsame, Literal.hundredths?_hundredths] at hread
  cases hread
  exact Nat.lt_irrefl _ hlt

end Registry

end Fixture

import Fixture.Decimal.Rounding
import Mathlib.Data.Nat.Dist

/-!
# Rounding is to the nearest

A quotient is rounded to the whole number nearest to it, and where two are as near as each other to
the even one. `Nearest` says so without a division, and nothing below opens the rounding again.

A number is rounded to so many binary digits on the grid that its own last digit spans. Smaller
numbers of as many digits may lie between the points of that grid, but none of them is nearer: the
power of two that begins the digits of the number is a point of the grid, and it lies between them
and the number.
-/

namespace Fixture.Decimal

variable {top bottom number other bits : Nat}

/-! ### Quotients -/

theorem step_le (hlt : other < number) (bottom : Nat) :
    other * bottom + bottom ≤ number * bottom := by
  rw [← Nat.succ_mul]
  exact Nat.mul_le_mul_right bottom hlt

/-- The whole number nearest to a quotient, the even one of two. -/
structure Nearest (top bottom number : Nat) : Prop where
  le : 2 * (number * bottom) ≤ 2 * top + bottom
  ge : 2 * top ≤ 2 * (number * bottom) + bottom
  even : 2 * (number * bottom) = 2 * top + bottom ∨ 2 * top = 2 * (number * bottom) + bottom →
    number % 2 = 0

theorem nearest_roundDiv (hbottom : 0 < bottom) (top : Nat) :
    Nearest top bottom (roundDiv top bottom) := by
  have hsum : top / bottom * bottom + top % bottom = top := Nat.div_add_mod' top bottom
  have hmod : top % bottom < bottom := Nat.mod_lt top hbottom
  have hnext : (top / bottom + 1) * bottom = top / bottom * bottom + bottom := Nat.succ_mul ..
  unfold roundDiv
  dsimp only
  split
  · next hbelow =>
    simp only [Bool.or_eq_true, Bool.and_eq_true, decide_eq_true_eq, beq_iff_eq] at hbelow
    exact ⟨by omega, by omega, by omega⟩
  · next habove =>
    simp only [Bool.or_eq_true, Bool.and_eq_true, decide_eq_true_eq, beq_iff_eq] at habove
    exact ⟨by omega, by omega, by omega⟩

theorem roundDiv_le (hbottom : 0 < bottom) (h : top ≤ number * bottom) :
    roundDiv top bottom ≤ number := by
  by_contra hlt
  have hstep := step_le (Nat.lt_of_not_le hlt) bottom
  have hnearest := (nearest_roundDiv hbottom top).le
  omega

/-- What is rounded to less than an even number lies below the middle before that number: the middle
itself is rounded up. -/
theorem roundDiv_lt_iff_of_even (hbottom : 0 < bottom) (heven : number % 2 = 0) :
    roundDiv top bottom < number ↔ 2 * top + bottom < 2 * (number * bottom) := by
  obtain ⟨hle, hge, htie⟩ := nearest_roundDiv hbottom top
  generalize roundDiv top bottom = rounded at hle hge htie ⊢
  constructor
  · intro hlt
    have hstep := step_le hlt bottom
    by_contra hmiddle
    have hrounded : rounded % 2 = 0 := htie (.inr (by omega))
    have hsucc : (rounded + 1) * bottom = number * bottom := by
      rw [Nat.succ_mul]
      omega
    have hnumber : rounded + 1 = number := Nat.eq_of_mul_eq_mul_right hbottom hsucc
    omega
  · intro hmiddle
    by_contra hle'
    have hproduct : number * bottom ≤ rounded * bottom :=
      Nat.mul_le_mul_right bottom (Nat.le_of_not_lt hle')
    omega

theorem Nearest.dist_le (h : Nearest top bottom number) (other : Nat) :
    Nat.dist (number * bottom) top ≤ Nat.dist (other * bottom) top := by
  obtain ⟨hle, hge, -⟩ := h
  unfold Nat.dist
  rcases Nat.lt_trichotomy other number with hlt | rfl | hlt
  · have hstep := step_le hlt bottom
    omega
  · exact le_refl _
  · have hstep := step_le hlt bottom
    omega

theorem Nearest.even_of_dist_eq (h : Nearest top bottom number) (hne : other ≠ number)
    (hdist : Nat.dist (number * bottom) top = Nat.dist (other * bottom) top) :
    number % 2 = 0 := by
  obtain ⟨hle, hge, htie⟩ := h
  unfold Nat.dist at hdist
  rcases Nat.lt_or_gt_of_ne hne with hlt | hlt
  · have hstep := step_le hlt bottom
    exact htie (.inl (by omega))
  · have hstep := step_le hlt bottom
    exact htie (.inr (by omega))

/-! ### Binary digits -/

/-- At most so many binary digits in front of the zeros. -/
def HasBits (bits number : Nat) : Prop :=
  ∃ digits zeros, digits < 2 ^ bits ∧ number = digits * 2 ^ zeros

/-- The nearest of the numbers that have at most so many binary digits in front of their zeros, the
one with fewer digits of two. -/
structure NearestBits (bits number rounded : Nat) : Prop where
  hasBits : HasBits bits rounded
  dist_le : ∀ other, HasBits bits other → Nat.dist rounded number ≤ Nat.dist other number
  even : ∀ other, HasBits bits other → other ≠ rounded →
    Nat.dist rounded number = Nat.dist other number → HasBits (bits - 1) rounded

/-- What the last of so many binary digits of a number stands for. -/
def lastPlace (bits number : Nat) : Nat := 2 ^ (number.log2 + 1 - bits)

theorem lastPlace_pos (bits number : Nat) : 0 < lastPlace bits number := Nat.two_pow_pos _

theorem roundBits_eq (bits number : Nat) :
    roundBits bits number =
      roundDiv number (lastPlace bits number) * lastPlace bits number := rfl

theorem lastPlace_le {places : Nat} (hbits : 0 < bits) (h : number < 2 ^ (bits + places)) :
    lastPlace bits number ≤ 2 ^ places := by
  apply Nat.pow_le_pow_right (by decide)
  by_cases hzero : number = 0
  · rw [hzero, Nat.log2_zero]
    omega
  · have hlog : number.log2 < bits + places := (Nat.log2_lt hzero).2 h
    omega

/-- Rounding moves a number by half its last place at most. -/
theorem roundBits_bounds (bits number : Nat) :
    2 * roundBits bits number ≤ 2 * number + lastPlace bits number ∧
      2 * number ≤ 2 * roundBits bits number + lastPlace bits number := by
  obtain ⟨hle, hge, -⟩ := nearest_roundDiv (lastPlace_pos bits number) number
  exact ⟨hle, hge⟩

theorem roundDiv_lastPlace_le (bits number : Nat) :
    roundDiv number (lastPlace bits number) ≤ 2 ^ bits := by
  apply roundDiv_le (lastPlace_pos bits number)
  rw [lastPlace, ← Nat.pow_add]
  have hpow : 2 ^ (number.log2 + 1) ≤ 2 ^ (bits + (number.log2 + 1 - bits)) :=
    Nat.pow_le_pow_right (by decide) (by omega)
  exact Nat.le_trans (Nat.le_of_lt Nat.lt_log2_self) hpow

/-- The digits may be one more than they can be: then they are a one and zeros. -/
theorem hasBits_of_le {digits : Nat} (hbits : 0 < bits) (h : digits ≤ 2 ^ bits) (zeros : Nat) :
    HasBits bits (digits * 2 ^ zeros) := by
  rcases Nat.lt_or_eq_of_le h with hlt | rfl
  · exact ⟨digits, zeros, hlt, rfl⟩
  · refine ⟨1, bits + zeros, Nat.one_lt_two_pow (Nat.ne_of_gt hbits), ?_⟩
    rw [Nat.one_mul, Nat.pow_add]

theorem HasBits.point_or_nearer (hbits : 0 < bits) (h : HasBits bits other) (number : Nat) :
    ∃ place, other = place * lastPlace bits number ∨
      Nat.dist (place * lastPlace bits number) number < Nat.dist other number := by
  obtain ⟨digits, zeros, hdigits, rfl⟩ := h
  by_cases hzeros : number.log2 + 1 - bits ≤ zeros
  · refine ⟨digits * 2 ^ (zeros - (number.log2 + 1 - bits)), .inl ?_⟩
    rw [lastPlace, Nat.mul_assoc, ← Nat.pow_add, Nat.sub_add_cancel hzeros]
  · have hpoint : 2 ^ (bits - 1) * lastPlace bits number = 2 ^ number.log2 := by
      rw [lastPlace, ← Nat.pow_add]
      congr 1
      omega
    have hnumber : number ≠ 0 := by
      rintro rfl
      rw [Nat.log2_zero] at hzeros
      omega
    have hbelow : digits * 2 ^ zeros < 2 ^ number.log2 := by
      calc digits * 2 ^ zeros < 2 ^ bits * 2 ^ zeros :=
            Nat.mul_lt_mul_of_pos_right hdigits (Nat.two_pow_pos zeros)
        _ = 2 ^ (bits + zeros) := (Nat.pow_add 2 bits zeros).symm
        _ ≤ 2 ^ number.log2 := Nat.pow_le_pow_right (by decide) (by omega)
    have hle : 2 ^ number.log2 ≤ number := Nat.log2_self_le hnumber
    refine ⟨2 ^ (bits - 1), .inr ?_⟩
    rw [hpoint, Nat.dist_eq_sub_of_le hle, Nat.dist_eq_sub_of_le (by omega)]
    omega

/-- Rounding to binary digits is to the nearest number of so many digits. -/
theorem nearestBits_roundBits (hbits : 1 < bits) (number : Nat) :
    NearestBits bits number (roundBits bits number) := by
  have hnearest := nearest_roundDiv (lastPlace_pos bits number) number
  have hdigits := roundDiv_lastPlace_le bits number
  rw [roundBits_eq]
  generalize roundDiv number (lastPlace bits number) = digits at hnearest hdigits ⊢
  refine ⟨hasBits_of_le (by omega) hdigits _, fun other hother => ?nearest,
    fun other hother hne hdist => ?even⟩
  case nearest =>
    obtain ⟨place, rfl | hnearer⟩ := hother.point_or_nearer (by omega) number
    · exact hnearest.dist_le place
    · exact (hnearest.dist_le place).trans hnearer.le
  case even =>
    -- a number off the grid is never as near as the rounded one, so both are neighbours on it
    obtain ⟨place, rfl | hnearer⟩ := hother.point_or_nearer (by omega) number
    · have heven : digits % 2 = 0 :=
        hnearest.even_of_dist_eq (fun heq => hne (by rw [heq])) hdist
      have hdouble : 2 ^ (bits - 1) * 2 = 2 ^ bits := Nat.two_pow_pred_mul_two (by omega)
      have hproduct : digits * lastPlace bits number =
          digits / 2 * 2 ^ (number.log2 + 1 - bits + 1) := by
        rw [Nat.pow_succ', ← Nat.mul_assoc, Nat.div_mul_cancel (Nat.dvd_of_mod_eq_zero heven)]
        rfl
      rw [hproduct]
      exact hasBits_of_le (by omega) (by omega) _
    · exact absurd hdist (((hnearest.dist_le place).trans_lt hnearer).ne)

end Fixture.Decimal

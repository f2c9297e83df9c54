import Fixture.Random.Source

/-!
# Numbers below a bound

What is taken of a draw is the high part of its product with the bound, and that lies below the
bound because the draw has no more bits than are cut off. This is all that is needed of the draw,
however often it was repeated before; so it holds for a source that repeats until a draw lies
inside, and for one that loses its patience before. The two are the same source where the patience
is long enough.
-/

namespace Fixture.Random

/-- A draw that is repeated until it lies inside, with the number of its repetitions. -/
inductive Repeated (bits bound : Nat) (draw : Draw Nat) :
    (repetitions : Nat) → (before : Source) → (number : Nat) → (after : Source) → Prop
  | inside {source : Source} (h : accepts bits bound (draw source).1 = true) :
      Repeated bits bound draw 0 source ((draw source).1 * bound / Nat.pow 2 bits) (draw source).2
  | outside {repetitions number : Nat} {source after : Source}
      (h : accepts bits bound (draw source).1 = false)
      (rest : Repeated bits bound draw repetitions (draw source).2 number after) :
      Repeated bits bound draw (repetitions + 1) source number after

variable {bits bound drawn repetitions number : Nat} {draw : Draw Nat} {source after : Source}

/-! ### Words -/

theorem next32_lt (source : Source) : (next32 source).1 < Nat.pow 2 32 :=
  (source.word source.position).toNat_lt

theorem next64_lt (source : Source) : (next64 source).1 < Nat.pow 2 64 := by
  have hlow := (source.word source.position).toNat_lt
  have hhigh := (source.word (source.position + 1)).toNat_lt
  show _ + _ * 2 ^ 32 < 2 ^ 64
  omega

/-! ### One number -/

theorem high_lt (hbound : 0 < bound) (h : drawn < Nat.pow 2 bits) :
    drawn * bound / Nat.pow 2 bits < bound := by
  apply Nat.div_lt_of_lt_mul
  exact Nat.mul_lt_mul_of_pos_right h hbound

theorem belowWithin_inside (h : accepts bits bound (draw source).1 = true) (limit : Nat) :
    belowWithin bits bound draw limit source =
      ((draw source).1 * bound / Nat.pow 2 bits, (draw source).2) := by
  cases limit with
  | zero => rfl
  | succ limit => exact if_pos h

theorem belowWithin_outside (h : accepts bits bound (draw source).1 = false) (limit : Nat) :
    belowWithin bits bound draw (limit + 1) source =
      belowWithin bits bound draw limit (draw source).2 :=
  if_neg (by rw [h]; decide)

theorem belowWithin_lt (hbound : 0 < bound) (hdraw : ∀ source, (draw source).1 < Nat.pow 2 bits)
    (repetitions : Nat) (source : Source) :
    (belowWithin bits bound draw repetitions source).1 < bound := by
  induction repetitions generalizing source with
  | zero => exact high_lt hbound (hdraw source)
  | succ repetitions ih =>
    cases h : accepts bits bound (draw source).1 with
    | true =>
      rw [belowWithin_inside h]
      exact high_lt hbound (hdraw source)
    | false =>
      rw [belowWithin_outside h]
      exact ih _

theorem below32_lt (hbound : 0 < bound) (source : Source) : (below32 bound source).1 < bound :=
  belowWithin_lt hbound next32_lt source.patience source

theorem below64_lt (hbound : 0 < bound) (source : Source) : (below64 bound source).1 < bound :=
  belowWithin_lt hbound next64_lt source.patience source

/-! ### However often it takes -/

namespace Repeated

theorem lt (h : Repeated bits bound draw repetitions source number after) (hbound : 0 < bound)
    (hdraw : ∀ source, (draw source).1 < Nat.pow 2 bits) : number < bound := by
  induction h with
  | inside => exact high_lt hbound (hdraw _)
  | outside _ _ ih => exact ih

theorem belowWithin_eq (h : Repeated bits bound draw repetitions source number after) {limit : Nat}
    (hlimit : repetitions ≤ limit) :
    belowWithin bits bound draw limit source = (number, after) := by
  induction h generalizing limit with
  | inside hinside => exact belowWithin_inside hinside limit
  | outside houtside _ ih =>
    cases limit with
    | zero => omega
    | succ limit =>
      rw [belowWithin_outside houtside]
      exact ih (Nat.le_of_succ_le_succ hlimit)

end Repeated

end Fixture.Random

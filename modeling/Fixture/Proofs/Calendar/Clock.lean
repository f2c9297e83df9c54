import Fixture.Calendar.Clock
import Fixture.Proofs.Calendar.Iso
import Fixture.Proofs.Literal.Plain

/-!
# Clocks that are moved

A clock that can be handled stays so when it is moved, for a step that leads out of the calendar is
not taken, and the nanoseconds run on beyond a second only in a leap second that the clock has not
left. Its text names the second that it shows and is read back as the beginning of that second, in
leap seconds as in others.
-/

namespace Fixture.Clock

/-- Nanoseconds since the start of 1970. A leap second shares them with the second after it. -/
def time (clock : Clock) : Int := clock.second * perSecond + clock.nanos

variable {clock : Clock} {step : Int}

theorem isValid_iff :
    clock.isValid = true ↔ clock.inRange = true ∧
      (clock.nanos < perSecond ∨ clock.nanos < 2 * perSecond ∧ clock.second % 60 = 59) := by
  simp [isValid]

theorem inLeap_iff : clock.inLeap = true ↔ perSecond ≤ clock.nanos := decide_eq_true_iff

/-! ### Steps -/

theorem time_after (second nanos : Int) :
    (after second nanos).time = second * perSecond + nanos := by
  simp only [time, after, perSecond]
  omega

theorem nanos_after_lt (second nanos : Int) : (after second nanos).nanos < perSecond := by
  simp only [after, perSecond]
  omega

/-- A step stays in the leap second that the clock is in, or it leads out of it forwards, where the
leap second has taken its time, or it leads to where it would without leap seconds. -/
theorem plus_cases (clock : Clock) (step : Int) :
    (clock.inLeap = true ∧ clock.plus step = ⟨clock.second, (clock.nanos + step * perMilli).toNat⟩ ∧
      perSecond ≤ clock.nanos + step * perMilli ∧
        clock.nanos + step * perMilli < 2 * perSecond) ∨
    (clock.inLeap = true ∧ 2 * perSecond ≤ clock.nanos + step * perMilli ∧
      clock.plus step = .after clock.second (clock.nanos + step * perMilli - perSecond)) ∨
    clock.plus step = .after clock.second (clock.nanos + step * perMilli) := by
  by_cases hleap : clock.inLeap = true ∧ perSecond ≤ clock.nanos + step * perMilli
  · by_cases hwithin : clock.nanos + step * perMilli < 2 * perSecond
    · refine .inl ⟨hleap.1, ?_, hleap.2, hwithin⟩
      simp [plus, hleap, hwithin]
    · refine .inr (.inl ⟨hleap.1, Int.not_lt.1 hwithin, ?_⟩)
      simp [plus, hleap, hwithin]
  · refine .inr (.inr ?_)
    rw [plus]
    exact if_neg (by simpa using hleap)

/-- Ten seconds on and back from the leap second of a minute, and half a second on. -/
example : plus ⟨59, 1300000000⟩ 10000 = ⟨69, 300000000⟩ ∧
    plus ⟨59, 1300000000⟩ (-10000) = ⟨50, 300000000⟩ ∧
    plus ⟨59, 1300000000⟩ 500 = ⟨59, 1800000000⟩ := by decide

theorem isValid_plus (h : clock.isValid = true) (hrange : (clock.plus step).inRange = true) :
    (clock.plus step).isValid = true := by
  refine isValid_iff.2 ⟨hrange, ?_⟩
  rcases plus_cases clock step with ⟨hleap, hplus, -, hwithin⟩ | ⟨-, -, hplus⟩ | hplus
  · obtain ⟨-, hshort | ⟨-, hminute⟩⟩ := isValid_iff.1 h
    · exact absurd (inLeap_iff.1 hleap) (Nat.not_le.2 hshort)
    · refine .inr ⟨?_, ?_⟩
      · rw [hplus]
        simp only [perSecond] at hwithin ⊢
        omega
      · rw [hplus]
        exact hminute
  · rw [hplus]
    exact .inl (nanos_after_lt _ _)
  · rw [hplus]
    exact .inl (nanos_after_lt _ _)

theorem isValid_moved (h : clock.isValid = true) (step : Int) :
    (clock.moved step).isValid = true := by
  rw [moved]
  split
  · next hrange => exact isValid_plus h hrange
  · exact h

theorem time_plus (hleap : clock.inLeap = false) (step : Int) :
    (clock.plus step).time = clock.time + step * perMilli := by
  rcases plus_cases clock step with ⟨hin, -⟩ | ⟨hin, -⟩ | hplus
  · rw [hin] at hleap
    cases hleap
  · rw [hin] at hleap
    cases hleap
  · rw [hplus, time_after, time, Int.add_assoc]

/-- The time that a leap second takes is no longer than the step out of it. -/
theorem natAbs_time_plus {bound : Nat} (h : clock.isValid = true) (hbound : 1000 ≤ bound)
    (hstep : step.natAbs < bound) :
    ((clock.plus step).time - clock.time).natAbs < bound * perMilli := by
  rcases plus_cases clock step with ⟨-, hplus, hleap, -⟩ | ⟨-, hforwards, hplus⟩ | hplus
  · rw [hplus]
    simp only [time, perSecond, perMilli] at hleap ⊢
    omega
  · have hnanos : clock.nanos < 2 * perSecond := by
      rcases (isValid_iff.1 h).2 with hshort | ⟨hlong, -⟩
      · omega
      · exact hlong
    rw [hplus, time_after]
    simp only [time, perSecond, perMilli] at hforwards hnanos ⊢
    omega
  · rw [hplus, time_after]
    simp only [time, perSecond, perMilli]
    omega

theorem natAbs_time_moved {bound : Nat} (h : clock.isValid = true) (hbound : 1000 ≤ bound)
    (hstep : step.natAbs < bound) :
    ((clock.moved step).time - clock.time).natAbs < bound * perMilli := by
  rw [moved]
  split
  · exact natAbs_time_plus h hbound hstep
  · rw [Int.sub_self]
    exact Nat.mul_pos (by omega) (by decide)

/-! ### Texts -/

theorem isValid_moment (h : clock.isValid = true) : clock.moment.isValid = true := by
  obtain ⟨hrange, hnanos⟩ := isValid_iff.1 h
  have hshown : (Moment.ofInstant (clock.second * 1000)).isValid = true :=
    Moment.isValid_ofInstant hrange
  obtain ⟨hdate, hhour, hminute, -⟩ := Moment.isValid_iff.1 hshown
  refine Moment.isValid_iff.2 ⟨hdate, hhour, hminute, ?_⟩
  simp only [moment, Moment.ofInstant, perSecond] at hnanos ⊢
  omega

theorem ofMoment_moment (h : clock.isValid = true) :
    ofMoment clock.moment = ⟨clock.second, clock.nanos / perSecond * perSecond⟩ := by
  obtain ⟨-, hnanos⟩ := isValid_iff.1 h
  have hinstant : clock.moment.toInstant =
      clock.second * 1000 + (clock.nanos / perSecond : Nat) * 1000 := by
    have hshown := Moment.toInstant_ofInstant (clock.second * 1000)
    simp only [Moment.toInstant, moment] at hshown ⊢
    omega
  have hsecond : clock.moment.second = (clock.second % 60).toNat + clock.nanos / perSecond := by
    simp only [moment, Moment.ofInstant]
    omega
  rw [ofMoment, hinstant, hsecond]
  by_cases hshort : clock.nanos < perSecond
  · have hnone : clock.nanos / perSecond = 0 := Nat.div_eq_of_lt hshort
    rw [hnone, if_pos (by omega)]
    congr 1
    omega
  · obtain ⟨hlong, hminute⟩ := hnanos.resolve_left hshort
    have hone : clock.nanos / perSecond = 1 := by
      simp only [perSecond] at hlong hshort ⊢
      omega
    rw [hone, if_neg (by omega)]
    congr 1
    omega

theorem ofIso?_toIso (h : clock.isValid = true) :
    ofIso? clock.toIso = some ⟨clock.second, clock.nanos / perSecond * perSecond⟩ := by
  rw [ofIso?, toIso, Moment.ofIso?_toIso (isValid_moment h), Option.map_some, ofMoment_moment h]

theorem moment_ofMoment {moment : Moment} (h : moment.isValid = true) :
    (ofMoment moment).moment = moment := by
  by_cases hsecond : moment.second < 60
  · have hwhole : moment.toInstant % 1000 = 0 := Int.mul_emod_left _ _
    have hshown : Moment.ofInstant (moment.toInstant / 1000 * 1000) = moment := by
      rw [Int.ediv_mul_cancel_of_emod_eq_zero hwhole, Moment.ofInstant_toInstant h hsecond]
    rw [ofMoment, if_pos hsecond, Clock.moment, hshown]
    simp only [Nat.zero_div, Nat.add_zero]
  · -- A leap second follows the second 59 of its minute, which is no leap second.
    obtain ⟨date, hour, minute, second⟩ := moment
    obtain ⟨hdate, hhour, hminute, hlast⟩ := Moment.isValid_iff.1 h
    obtain rfl : second = 60 := Nat.le_antisymm hlast (Nat.not_lt.1 hsecond)
    have hbefore : Moment.isValid ⟨date, hour, minute, 59⟩ = true :=
      Moment.isValid_iff.2 ⟨hdate, hhour, hminute, Nat.le_succ 59⟩
    have hinstant : (Moment.toInstant ⟨date, hour, minute, 60⟩ / 1000 - 1) * 1000 =
        Moment.toInstant ⟨date, hour, minute, 59⟩ := by
      simp only [Moment.toInstant]
      omega
    have hshown : Moment.ofInstant (Moment.toInstant ⟨date, hour, minute, 59⟩) =
        ⟨date, hour, minute, 59⟩ := Moment.ofInstant_toInstant hbefore (Nat.lt_succ_self 59)
    rw [ofMoment, if_neg hsecond, Clock.moment, hinstant, hshown]
    simp only [Nat.div_self (show 0 < perSecond by decide), Nat.reduceAdd]

theorem isValid_ofMoment {moment : Moment} (h : moment.isValid = true) :
    (ofMoment moment).isValid = true := by
  obtain ⟨hdate, hhour, hminute, hsecond⟩ := Moment.isValid_iff.1 h
  obtain ⟨hfirst, hlast⟩ := Date.toDays_of_isValid hdate
  rw [isValid_iff, inRange, Moment.inRange, Bool.and_eq_true, decide_eq_true_eq,
    decide_eq_true_eq, Moment.firstInstant, Moment.lastInstant, ofMoment]
  split
  · simp only [Moment.toInstant, perSecond]
    omega
  · simp only [Moment.toInstant, perSecond]
    omega

theorem inLeap_ofMoment {moment : Moment} (h : moment.isValid = true) :
    (ofMoment moment).inLeap = true ↔ moment.second = 60 := by
  have hsecond := (Moment.isValid_iff.1 h).2.2.2
  rw [inLeap_iff, ofMoment]
  split
  · simp only [perSecond]
    omega
  · simp only [perSecond]
    omega

theorem ofIso?_eq_some {text : String} (h : ofIso? text = some clock) :
    ∃ moment, Moment.ofIso? text = some moment ∧ moment.isValid = true ∧
      ofMoment moment = clock := by
  obtain ⟨moment, hread, hclock⟩ := Option.map_eq_some_iff.1 h
  exact ⟨moment, hread, Moment.isValid_of_ofIso? hread, hclock⟩

/-- Writing and reading are inverse up to the second. An instant that can be handled is read back
from its text as the beginning of its second, which in a leap second is that of the leap second; and
a text, however short its fields, that names an instant names the one that is read back from the
full text of it, a leap second if the text names the second 60 and otherwise none. -/
theorem iso_inverse :
    (∀ clock : Clock, clock.isValid = true →
      ofIso? clock.toIso = some ⟨clock.second, clock.nanos / perSecond * perSecond⟩) ∧
    ∀ (text : String) (clock : Clock), ofIso? text = some clock →
      clock.isValid = true ∧ ofIso? clock.toIso = some clock ∧
        Moment.ofIso? text = some clock.moment ∧
          (clock.inLeap = true ↔ clock.moment.second = 60) := by
  refine ⟨fun clock => ofIso?_toIso, fun text clock h => ?_⟩
  obtain ⟨moment, hread, hvalid, rfl⟩ := ofIso?_eq_some h
  have hshown := moment_ofMoment hvalid
  refine ⟨isValid_ofMoment hvalid, ?_, ?_, ?_⟩
  · rw [ofIso?, toIso, hshown, Moment.ofIso?_toIso hvalid, Option.map_some]
  · rw [hshown]
    exact hread
  · rw [hshown]
    exact inLeap_ofMoment hvalid

/-- The last nanosecond before 1970, three tenths of a second into a leap second, and that leap
second written with blanks and short fields. -/
theorem iso_inverse_leap :
    (isValid ⟨-1, 999999999⟩ = true ∧ ofIso? (toIso ⟨-1, 999999999⟩) = some ⟨-1, 0⟩) ∧
      (isValid ⟨1467331199, 1300000000⟩ = true ∧
        ofIso? (toIso ⟨1467331199, 1300000000⟩) = some ⟨1467331199, 1000000000⟩) ∧
        ofIso? " 2016-6-30T 23:59:60Z" = some ⟨1467331199, 1000000000⟩ ∧
          inLeap ⟨1467331199, 1000000000⟩ = true ∧
            ofIso? (toIso ⟨1467331199, 1000000000⟩) = some ⟨1467331199, 1000000000⟩ := by
  have hbefore : isValid ⟨-1, 999999999⟩ = true := by decide
  have hleap : isValid ⟨1467331199, 1300000000⟩ = true := by decide
  have hread : ofIso? " 2016-6-30T 23:59:60Z" = some ⟨1467331199, 1000000000⟩ := by decide
  obtain ⟨-, hback, -, hkept⟩ := iso_inverse.2 _ _ hread
  exact ⟨⟨hbefore, iso_inverse.1 _ hbefore⟩, ⟨hleap, iso_inverse.1 _ hleap⟩, hread,
    hkept.2 (by decide), hback⟩

theorem plain_padded (width number : Nat) :
    ∀ c ∈ (Moment.padded width number).toList, Literal.Plain c :=
  fun c hc => Literal.plain_of_isDigit ((Moment.spelling_padded width number).isDigit c hc)

theorem plain_yearText (year : Int) :
    ∀ c ∈ (Moment.yearText year).toList, Literal.Plain c := by
  rw [Moment.yearText]
  split
  · exact plain_padded _ _
  · intro c hc
    rw [String.toList_append, List.mem_append] at hc
    rcases hc with hsign | hdigit
    · have hsign : c = '-' ∨ c = '+' := by
        split at hsign
        · exact .inl (List.mem_singleton.1 hsign)
        · exact .inr (List.mem_singleton.1 hsign)
      rcases hsign with rfl | rfl <;> decide
    · exact plain_padded _ _ c hdigit

theorem plain_toIso (clock : Clock) : ∀ c ∈ clock.toIso.toList, Literal.Plain c := by
  intro c hc
  rw [toIso, Moment.toList_toIso] at hc
  simp only [List.mem_append, List.mem_cons, List.not_mem_nil, or_false] at hc
  rcases hc with hc | rfl | hc | rfl | hc | rfl | hc | rfl | hc | rfl | hc | rfl
  · exact plain_yearText _ c hc
  all_goals first
    | exact plain_padded _ _ c hc
    | decide

end Fixture.Clock

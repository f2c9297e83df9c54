import Fixture.Proofs.Calendar.Clock
import Fixture.Proofs.Random.Below
import Fixture.Proofs.Registry

/-!
# The clock of a supply

Of the built-in kinds only dates touch the clock: a date moves it by one step and shows where it then
stands. All other kinds draw from the source alone, and names without a kind draw nothing. So it is
enough to know what one literal does; a clock that can be handled stays so however many were drawn
before.
-/

namespace Fixture

open Fixture.Random

namespace Supply

/-- What is taken leaves the clock alone. -/
def Steady {α : Type} (take : StateM Supply α) : Prop :=
  ∀ supply, (take.run supply).2.clock = supply.clock

namespace Steady

variable {α β : Type}

theorem draw (take : Draw α) : Steady (Supply.draw take) := fun _ => rfl

theorem pure (value : α) : Steady (Pure.pure value) := fun _ => rfl

theorem bind {take : StateM Supply α} {next : α → StateM Supply β} (h : Steady take)
    (hnext : ∀ value, Steady (next value)) : Steady (take >>= next) := fun supply =>
  (hnext _ _).trans (h supply)

theorem mapM {take : α → StateM Supply β} (h : ∀ source, Steady (take source))
    (sources : List α) : Steady (sources.mapM take) := by
  induction sources with
  | nil => exact pure []
  | cons source rest ih =>
    rw [List.mapM_cons]
    exact (h source).bind fun _ => ih.bind fun _ => pure _

theorem drawn (take : Draw α) (form : α → β) :
    Steady (Supply.draw take >>= fun value => Pure.pure (form value)) :=
  (draw take).bind fun _ => pure _

theorem allDrawn {γ : Type} (take : α → Draw β) (sources : List α) (form : List β → γ) :
    Steady ((sources.mapM fun source => Supply.draw (take source)) >>= fun values =>
      Pure.pure (form values)) :=
  (mapM (fun source => draw (take source)) sources).bind fun _ => pure _

end Steady

/-- The step that a source has for a date: as many numbers are drawn from as there are steps below
the bound in both directions. -/
def nextStep (source : Source) : Int :=
  ((below64 (2 * stepBound - 1) source).1 : Int) - (stepBound - 1 : Nat)

theorem natAbs_nextStep_lt (source : Source) : (nextStep source).natAbs < stepBound := by
  have hlt : (below64 (2 * stepBound - 1) source).1 < 2 * stepBound - 1 :=
    below64_lt (by decide) source
  simp only [nextStep, stepBound] at hlt ⊢
  omega

theorem advance_run (supply : Supply) :
    advance.run supply = (supply.clock.moved (nextStep supply.source),
      ⟨(below64 (2 * stepBound - 1) supply.source).2,
        supply.clock.moved (nextStep supply.source)⟩) := rfl

end Supply

namespace Strategy

open Supply

theorem date_run (supply : Supply) :
    date.run supply =
      ("isoDateStringToDate(\"" ++ (supply.clock.moved (nextStep supply.source)).toIso ++ "\")",
        ⟨(below64 (2 * stepBound - 1) supply.source).2,
          supply.clock.moved (nextStep supply.source)⟩) := by
  have hdate : date.run supply = ("isoDateStringToDate(" ++
      Literal.quote (advance.run supply).1.toIso ++ ")", (advance.run supply).2) := rfl
  rw [hdate, advance_run, Literal.quote_of_plain (Clock.plain_toIso _)]
  simp only [String.append_assoc]
  rfl

end Strategy

namespace Registry

open Supply

variable {catalog : Catalog} {name : String}

/-- The supply after literals of these names were asked for, one by one. -/
def behind (self : Registry) (catalog : Catalog) (names : List String) (supply : Supply) :
    Supply :=
  names.foldl (fun supply name => ((self.literal catalog name).run.run supply).2) supply

theorem steady_builtin : ∀ entry ∈ builtin.strategies, entry.1 ≠ "Date" → Steady entry.2 := by
  have huuid : Steady Strategy.uuid := .allDrawn _ _ _
  have htext : Steady Strategy.text := .allDrawn _ _ _
  have hinteger : Steady Strategy.integer := .drawn _ _
  have hlong : Steady Strategy.long := .drawn _ _
  have hboolean : Steady Strategy.boolean := .drawn _ _
  have hdouble : Steady Strategy.double := .drawn _ _
  simp only [builtin, List.forall_mem_cons]
  exact ⟨fun _ => huuid, fun _ => htext, fun _ => hinteger, fun _ => hinteger, fun _ => hlong,
    fun _ => hlong, fun h => absurd rfl h, fun _ => hboolean, fun _ => hboolean,
    fun _ => hdouble, fun _ => hdouble, List.forall_mem_nil _⟩

theorem clock_literal_of_not_date (h : builtin.kind? catalog name ≠ some "Date")
    (supply : Supply) :
    ((builtin.literal catalog name).run.run supply).2.clock = supply.clock := by
  cases hstrategy : builtin.strategy? catalog name with
  | none => rw [literal_of_no_strategy hstrategy]
  | some strategy =>
    rw [strategy?_eq_bind] at hstrategy
    obtain ⟨kind, hkind, hregistered⟩ := Option.bind_eq_some_iff.1 hstrategy
    have hdate : kind ≠ "Date" := by
      rintro rfl
      exact h hkind
    rw [literal_of_kind hkind hregistered]
    exact steady_builtin _ (mem_of_registered? hregistered) hdate supply

theorem literal_date (h : builtin.kind? catalog name = some "Date") (supply : Supply) :
    (builtin.literal catalog name).run.run supply =
      (.ok ("isoDateStringToDate(\"" ++ (supply.clock.moved (nextStep supply.source)).toIso ++
          "\")"),
        ⟨(below64 (2 * stepBound - 1) supply.source).2,
          supply.clock.moved (nextStep supply.source)⟩) := by
  have hregistered : builtin.registered? "Date" = some Strategy.date := rfl
  rw [literal_of_kind h hregistered, Strategy.date_run]

theorem isValid_literal {supply : Supply} (h : supply.clock.isValid = true) :
    ((builtin.literal catalog name).run.run supply).2.clock.isValid = true := by
  by_cases hdate : builtin.kind? catalog name = some "Date"
  · rw [literal_date hdate]
    exact Clock.isValid_moved h _
  · rw [clock_literal_of_not_date hdate]
    exact h

theorem isValid_behind (names : List String) {supply : Supply}
    (h : supply.clock.isValid = true) :
    (builtin.behind catalog names supply).clock.isValid = true := by
  induction names generalizing supply with
  | nil => exact h
  | cons name rest ih => exact ih (isValid_literal h)

/-- The clock stays valid and dates show it. From any clock that can be handled, with any source and
after any literals, the clock can be handled; no other literal than a date moves it; and a date
moves it by the step that the source has for it, less than the bound in either direction, or leaves
it where it is if the step would lead out of the calendar. What it shows is read back as the clock
after the step, at the beginning of its second. Outside leap seconds a step is the time by which the
clock moves. -/
theorem dates_show_clock (catalog : Catalog) (source : Source) (start : Clock)
    (hstart : start.isValid = true) (earlier : List String) (name : String) :
    let before := builtin.behind catalog earlier ⟨source, start⟩
    let drawn := ((builtin.literal catalog name).run.run before).1
    let after := ((builtin.literal catalog name).run.run before).2
    let step := nextStep before.source
    before.clock.isValid = true ∧ after.clock.isValid = true ∧
    (builtin.kind? catalog name ≠ some "Date" → after.clock = before.clock) ∧
    (builtin.kind? catalog name = some "Date" →
      step.natAbs < stepBound ∧
      (after.clock = if (before.clock.plus step).inRange then before.clock.plus step
        else before.clock) ∧
      (before.clock.inLeap = false →
        (before.clock.plus step).time = before.clock.time + step * Clock.perMilli) ∧
      (after.clock.time - before.clock.time).natAbs < stepBound * Clock.perMilli ∧
      ∃ text, drawn = .ok ("isoDateStringToDate(\"" ++ text ++ "\")") ∧
        Clock.ofIso? text =
          some ⟨after.clock.second, after.clock.nanos / Clock.perSecond * Clock.perSecond⟩) := by
  intro before drawn after step
  have hbefore : before.clock.isValid = true := isValid_behind earlier hstart
  have hafter : after.clock.isValid = true := isValid_literal hbefore
  refine ⟨hbefore, hafter, fun hkind => clock_literal_of_not_date hkind before, fun hkind => ?_⟩
  have hstep : step.natAbs < stepBound := natAbs_nextStep_lt before.source
  have hdate := literal_date hkind before
  have hmoved : after.clock = before.clock.moved step := congrArg (·.2.clock) hdate
  refine ⟨hstep, hmoved, fun hleap => Clock.time_plus hleap step, ?_, after.clock.toIso, ?_,
    Clock.ofIso?_toIso hafter⟩
  · rw [hmoved]
    exact Clock.natAbs_time_moved hbefore (by decide) hstep
  · rw [hmoved]
    exact congrArg Prod.fst hdate

/-- A source that always draws the largest numbers. -/
def forwards : Source := ⟨fun position => if position % 2 = 0 then 0 else 0xFFFFFFFF, 0, 0⟩

/-- At the last nanosecond of the calendar dates stay where they are, and from the middle of a leap
second the first of them leads into January. -/
theorem dates_show_clock_end :
    let last : Clock := ⟨8210266876799, 999999999⟩
    let leap : Clock := ⟨1483228799, 1300000000⟩
    last.isValid = true ∧ leap.isValid = true ∧
      builtin.kind? .empty "java.util.Date" = some "Date" ∧
      (builtin.behind .empty ["Date", "Date"] ⟨forwards, last⟩).clock = last ∧
      (∃ text, ((builtin.literal .empty "java.util.Date").run.run
          (builtin.behind .empty ["Date"] ⟨forwards, last⟩)).1 =
            .ok ("isoDateStringToDate(\"" ++ text ++ "\")") ∧
        Clock.ofIso? text = some ⟨8210266876799, 0⟩) ∧
      leap.toIso = "2016-12-31T23:59:60Z" ∧
      ∃ text, ((builtin.literal .empty "Date").run.run ⟨forwards, leap⟩).1 =
          .ok ("isoDateStringToDate(\"" ++ text ++ "\")") ∧
        Clock.ofIso? text = some ⟨1484228799, 0⟩ := by
  intro last leap
  have hlast : last.isValid = true := by decide
  have hleap : leap.isValid = true := by decide
  have hkind : builtin.kind? .empty "java.util.Date" = some "Date" := by decide +kernel
  obtain ⟨-, -, -, hstays⟩ :=
    dates_show_clock .empty forwards last hlast ["Date"] "java.util.Date"
  obtain ⟨-, -, -, hmoves⟩ := dates_show_clock .empty forwards leap hleap [] "Date"
  have hafter : ((builtin.literal .empty "java.util.Date").run.run
      (builtin.behind .empty ["Date"] ⟨forwards, last⟩)).2.clock = ⟨8210266876799, 999999999⟩ := by
    decide +kernel
  have hnext : ((builtin.literal .empty "Date").run.run
      (builtin.behind .empty [] ⟨forwards, leap⟩)).2.clock = ⟨1484228799, 299000000⟩ := by
    decide +kernel
  obtain ⟨-, -, -, -, text, hdrawn, hread⟩ := hstays hkind
  obtain ⟨-, -, -, -, next, hnextDrawn, hnextRead⟩ := hmoves rfl
  rw [hafter] at hread
  rw [hnext] at hnextRead
  exact ⟨hlast, hleap, hkind, by decide +kernel, ⟨text, hdrawn, hread⟩, by decide +kernel,
    next, hnextDrawn, hnextRead⟩

end Registry

end Fixture

import Fixture.Emission
import Mathlib.Data.List.SplitBy

/-!
# The lines of a text

A printer remembers no more of the events than whether the last one was a blank line. The text it
ends with is nevertheless told by all events at once: blank lines in a row become one, and what is
left is one line each. Where no text in an event goes over a line, these are the lines of the text.
-/

namespace Fixture

namespace Event

/-- The texts that an event is made of. -/
def texts : Event → List String
  | declare type name value => [type, name, value]
  | declareList element name => [element, name]
  | declareSet element name => [element, name]
  | append collection value => [collection, value]
  | call owner method argument => [owner, method, argument]
  | blank => []

/-- The line of an event, without its end. -/
def line (event : Event) : String :=
  match event.statement? with
  | some statement => "    " ++ statement ++ ";"
  | none => ""

def bothBlank (first second : Event) : Bool := decide (first = .blank ∧ second = .blank)

theorem bothBlank_iff {first second : Event} :
    first.bothBlank second = true ↔ first = .blank ∧ second = .blank := decide_eq_true_iff

theorem bothBlank_eq_false_iff {first second : Event} :
    first.bothBlank second = false ↔ (first = .blank → second ≠ .blank) := by
  rw [bothBlank, decide_eq_false_iff_not, not_and]

theorem statement?_eq_none_iff {event : Event} : event.statement? = none ↔ event = .blank := by
  cases event <;> simp [statement?]

theorem line_eq_empty_iff {event : Event} : event.line = "" ↔ event = .blank := by
  rw [← statement?_eq_none_iff, line]
  cases event.statement? with
  | none => simp
  | some statement => simp [String.append_eq_empty_iff]

/-- No text in the event goes over a line. -/
def OneLine (event : Event) : Prop := ∀ text ∈ event.texts, '\n' ∉ text.toList

theorem OneLine.line {event : Event} (h : event.OneLine) : '\n' ∉ event.line.toList := by
  cases event <;> simp_all [OneLine, texts, Event.line, statement?, toString]

end Event

/-! ### One blank line for each run of blank lines -/

/-- The events with one blank line in place of each run of blank lines. -/
def collapsed (events : List Event) : List Event :=
  (events.splitBy Event.bothBlank).map (·.headD .blank)

theorem run_cases {run : List Event} (hne : run ≠ [])
    (hrun : run.IsChain fun first second => first.bothBlank second = true) :
    (∃ event, run = [event]) ∨ ∃ count, run = List.replicate (count + 1) .blank := by
  induction run with
  | nil => exact absurd rfl hne
  | cons event rest ih =>
    cases rest with
    | nil => exact .inl ⟨event, rfl⟩
    | cons second rest =>
      right
      obtain ⟨hboth, hrest⟩ := List.isChain_cons_cons.1 hrun
      obtain ⟨rfl, rfl⟩ := Event.bothBlank_iff.1 hboth
      obtain ⟨other, hother⟩ | ⟨count, hcount⟩ := ih (List.cons_ne_nil _ _) hrest
      · cases hother
        exact ⟨1, rfl⟩
      · exact ⟨count + 1, by rw [hcount, List.replicate_succ (n := count + 1)]⟩

theorem getLast_run {run : List Event} (hne : run ≠ [])
    (hrun : run.IsChain fun first second => first.bothBlank second = true) :
    run.getLast hne = run.headD .blank := by
  obtain ⟨event, rfl⟩ | ⟨count, rfl⟩ := run_cases hne hrun
  · rfl
  · rw [List.getLast_replicate]
    rfl

theorem isChain_collapsed (events : List Event) :
    (collapsed events).IsChain fun first second => first.bothBlank second = false := by
  rw [collapsed, List.isChain_map]
  refine (List.isChain_getLast_head_splitBy Event.bothBlank events).imp_of_mem_imp ?_
  rintro first second hfirst - ⟨hne, hne', hcut⟩
  rw [getLast_run hne (List.isChain_of_mem_splitBy hfirst)] at hcut
  cases second with
  | nil => exact absurd rfl hne'
  | cons => exact hcut

namespace Printer

variable (printer : Printer)

theorem print_blank_blank : (printer.print .blank).print .blank = printer.print .blank := rfl

theorem printAll_replicate_blank (count : Nat) :
    printer.printAll (List.replicate (count + 1) .blank) = printer.print .blank := by
  induction count generalizing printer with
  | zero => rfl
  | succ count ih =>
    show (printer.print .blank).printAll (List.replicate (count + 1) .blank) = _
    rw [ih, print_blank_blank]

theorem printAll_run {run : List Event} (hne : run ≠ [])
    (hrun : run.IsChain fun first second => first.bothBlank second = true) :
    printer.printAll run = printer.print (run.headD .blank) := by
  obtain ⟨event, rfl⟩ | ⟨count, rfl⟩ := run_cases hne hrun
  · rfl
  · exact printer.printAll_replicate_blank count

theorem printAll_collapsed (events : List Event) :
    printer.printAll (collapsed events) = printer.printAll events := by
  have hruns : ∀ runs : List (List Event),
      (∀ run ∈ runs, run ≠ [] ∧ run.IsChain fun first second => first.bothBlank second = true) →
      ∀ printer : Printer,
        printer.printAll (runs.map (·.headD .blank)) = printer.printAll runs.flatten := by
    intro runs
    induction runs with
    | nil => intro _ _; rfl
    | cons run rest ih =>
      intro hall printer
      obtain ⟨⟨hne, hrun⟩, hrest⟩ := List.forall_mem_cons.1 hall
      show (printer.print (run.headD .blank)).printAll (rest.map _) = _
      rw [List.flatten_cons, printAll_append, printer.printAll_run hne hrun, ih hrest]
  have hsplit := hruns (events.splitBy Event.bothBlank) fun run hrun =>
    ⟨List.ne_nil_of_mem_splitBy hrun, List.isChain_of_mem_splitBy hrun⟩
  rw [collapsed, hsplit, List.flatten_splitBy]

theorem afterBlank_print {event : Event} :
    (printer.print event).afterBlank = true ↔ event = .blank := by
  rw [← Event.statement?_eq_none_iff, print]
  cases event.statement? <;> simp

theorem text_print {event : Event} (h : printer.afterBlank = true → event ≠ .blank) :
    (printer.print event).text = printer.text ++ (event.line ++ "\n") := by
  rw [print, Event.line]
  cases hstatement : event.statement? with
  | some statement => simp [String.append_assoc]
  | none =>
    have hafter : printer.afterBlank = false := by
      simpa using fun hafter => h hafter (Event.statement?_eq_none_iff.1 hstatement)
    simp [hafter]

theorem text_printAll {events : List Event}
    (hchain : events.IsChain fun first second => first.bothBlank second = false)
    (hstart : printer.afterBlank = true → ∀ event ∈ events.head?, event ≠ .blank) :
    (printer.printAll events).text =
      printer.text ++ String.join (events.map fun event => event.line ++ "\n") := by
  -- The printer is left general: what it remembers bears on the next event alone.
  induction events generalizing printer with
  | nil => simp [printAll]
  | cons event rest ih =>
    obtain ⟨hnext, hrest⟩ := List.isChain_cons.1 hchain
    have hprint := printer.text_print fun hafter => hstart hafter event rfl
    have hafter : (printer.print event).afterBlank = true →
        ∀ second ∈ rest.head?, second ≠ .blank := fun hafter second hsecond =>
      Event.bothBlank_eq_false_iff.1 (hnext second hsecond) ((printer.afterBlank_print).1 hafter)
    show ((printer.print event).printAll rest).text = _
    rw [ih _ hrest hafter, hprint, List.map_cons, String.join_cons, String.append_assoc]

end Printer

/-- The lines of events: one for each, once blank lines in a row have become one. -/
def lines (events : List Event) : List String := (collapsed events).map Event.line

theorem render_eq (events : List Event) :
    render events = String.join ((lines events).map (· ++ "\n")) := by
  have hstart : (Printer.mk "" false).afterBlank = true →
      ∀ event ∈ (collapsed events).head?, event ≠ .blank := nofun
  rw [render, ← Printer.printAll_collapsed,
    Printer.text_printAll _ (isChain_collapsed events) hstart, String.empty_append, lines,
    List.map_map]
  rfl

/-! ### The lines of the text -/

theorem splitOn_join {lines : List String} (h : ∀ line ∈ lines, '\n' ∉ line.toList) :
    (String.join (lines.map (· ++ "\n"))).toList.splitOn '\n' = lines.map String.toList ++ [[]] := by
  induction lines with
  | nil => simp
  | cons line rest ih =>
    obtain ⟨hline, hrest⟩ := List.forall_mem_cons.1 h
    have htext : (String.join ((line :: rest).map (· ++ "\n"))).toList =
        line.toList ++ '\n' :: (String.join (rest.map (· ++ "\n"))).toList := by simp
    rw [htext, List.splitOn_append_cons_self_of_not_mem hline, ih hrest]
    rfl

theorem mem_of_mem_collapsed {events : List Event} {event : Event} (h : event ∈ collapsed events) :
    event ∈ events := by
  obtain ⟨run, hrun, rfl⟩ := List.mem_map.1 h
  rw [← List.flatten_splitBy Event.bothBlank events]
  refine List.mem_flatten.2 ⟨run, hrun, ?_⟩
  cases run with
  | nil => exact absurd hrun (List.nil_notMem_splitBy _ _)
  | cons => exact List.mem_cons_self

theorem splitOn_render {events : List Event} (h : ∀ event ∈ events, event.OneLine) :
    (render events).toList.splitOn '\n' = (lines events).map String.toList ++ [[]] := by
  rw [render_eq]
  refine splitOn_join fun line hline => ?_
  obtain ⟨event, hevent, rfl⟩ := List.mem_map.1 hline
  exact (h event (mem_of_mem_collapsed hevent)).line

theorem isChain_lines (events : List Event) :
    (lines events).IsChain fun first second => ¬ (first = "" ∧ second = "") := by
  refine (List.isChain_map _).2 ((isChain_collapsed events).imp ?_)
  intro first second hcut hboth
  rw [Event.line_eq_empty_iff, Event.line_eq_empty_iff] at hboth
  exact Event.bothBlank_eq_false_iff.1 hcut hboth.1 hboth.2

end Fixture

import Fixture.Proofs.Construction.Agreement
import Fixture.Proofs.Rendering

/-!
# Deliveries into any sink

A construction into a sink agrees with itself into a log. So whatever the sink is, a delivery ends
like the fixture does, and leaves the sink that has taken in the events of the fixture one by one, up
to the failure if there is one. For a printer that is their text.
-/

namespace Fixture

/-- Every name can be asked for, and a composite corresponds to itself alone. -/
def Likeness.same : Likeness := ⟨fun _ => True, Eq, Eq⟩

theorem Plan.mirrors_same (plan : Plan) : plan.Mirrors Likeness.same plan := by
  have hnames : plan.NamesMirror Likeness.same plan :=
    ⟨rfl, fun _ _ => rfl, fun _ _ => .self _ (fun _ _ => rfl) fun _ _ => rfl⟩
  refine { hnames with maxDepth := rfl, scope := rfl, name := ?_, module := ?_, params := ?_, due := ?_ }
  · rintro owner _ rfl
    rfl
  · rintro owner _ rfl
    rfl
  · rintro owner _ rfl
    rfl
  · rintro owner _ args rfl hargs
    exact List.forall₂_same.2 fun property _ =>
      hnames.treats (fun _ => rfl) hargs rfl rfl rfl (Ty.built _)

section

variable {σ : Type} [Sink σ]

/-- A sink has taken in the events of a log and no others. -/
def Log.PouredInto (log : Log) (sink : σ) : Prop :=
  sink = log.toList.foldl Sink.accept Sink.fresh

theorem Log.pouredInto_fresh : (Sink.fresh : Log).PouredInto (Sink.fresh : σ) := rfl

theorem Log.PouredInto.accept (log : Log) (sink : σ) (event : Event) (h : log.PouredInto sink) :
    (Sink.accept log event).PouredInto (Sink.accept sink event) := by
  rw [PouredInto, accept_eq, Array.toList_push, List.foldl_append, ← h]
  rfl

end

/-- A log corresponds to the sinks that have taken in the same events. -/
def Sink.Bond.ofLog (σ : Type) [Sink σ] : Sink.Bond Log σ :=
  ⟨Log.PouredInto, Log.pouredInto_fresh, Log.PouredInto.accept⟩

/-- What is delivered into a sink is what a log records, taken in event by event. -/
theorem Catalog.deliver_eq {σ : Type} [Sink σ] (catalog : Catalog) (registry : Registry)
    (settings : Settings) (supply : Supply) (root : String) :
    let recorded := catalog.deliver Log registry settings supply root
    catalog.deliver σ registry settings supply root =
      ⟨recorded.result, recorded.sink.toList.foldl Sink.accept Sink.fresh, recorded.supply⟩ := by
  intro recorded
  have hagree : Delivery.Agree Likeness.same.alike (Sink.Bond.ofLog σ) recorded
      (catalog.deliver σ registry settings supply root) :=
    Delivery.agree_deliver _ (fun _ => Plan.mirrors_same _) rfl trivial supply
  obtain ⟨hresult, hsink, hsupply⟩ := hagree
  have hpoured : recorded.sink.PouredInto _ := hsink
  rw [Failure.eq_of_alike hresult, hsupply, ← hpoured]

/-- A printer ends with one line for each statement and one empty line for each run of blank lines.
Where no text goes over a line, these are the lines of its text, and no two empty ones are next to
each other. What is printed in the course of a construction, up to the end or up to a failure, is the
text of the events that a log records in the same course. -/
theorem printed_text :
    (∀ events : List Event,
      (Printer.printAll {} events).text = String.join ((lines events).map (· ++ "\n"))) ∧
    (∀ events : List Event, (∀ event ∈ events, event.OneLine) →
      (Printer.printAll {} events).text.toList.splitOn '\n' =
          (lines events).map String.toList ++ [[]] ∧
        (lines events).IsChain fun first second => ¬ (first = "" ∧ second = "")) ∧
    ∀ (catalog : Catalog) (registry : Registry) (settings : Settings) (supply : Supply)
      (root : String),
      let printed := catalog.deliver Printer registry settings supply root
      let recorded := catalog.deliver Log registry settings supply root
      printed.result = recorded.result ∧ printed.supply = recorded.supply ∧
        printed.sink.text = String.join ((lines recorded.sink.toList).map (· ++ "\n")) := by
  refine ⟨render_eq, fun events hone => ⟨splitOn_render hone, isChain_lines events⟩, ?_⟩
  intro catalog registry settings supply root printed recorded
  have hprinted : printed = ⟨recorded.result, recorded.sink.toList.foldl Sink.accept Sink.fresh,
    recorded.supply⟩ := catalog.deliver_eq registry settings supply root
  rw [hprinted, ← render_eq]
  exact ⟨rfl, rfl, rfl⟩

/-- Two calls with blank lines between and behind them. -/
def gap : List Event :=
  [.call "a" "setB" "b", .blank, .blank, .call "a" "setC" "c", .blank]

theorem printed_text_gap :
    (∀ event ∈ gap, event.OneLine) ∧
      (Printer.printAll {} gap).text.toList.splitOn '\n' =
        ["    a.setB(b);".toList, [], "    a.setC(c);".toList, [], []] := by
  have hone : ∀ event ∈ gap, event.OneLine := by simp [gap, Event.OneLine, Event.texts]
  obtain ⟨-, hlines, -⟩ := printed_text
  refine ⟨hone, (hlines gap hone).1.trans ?_⟩
  rfl

end Fixture

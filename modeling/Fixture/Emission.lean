/-!
# What a generation emits

A generation emits events, one for each statement or separating blank line, into a sink: a log that
keeps them all, or a printer. The text is a rendering of the events alone: a statement is an indented
line, and blank lines in a row become one.
-/

namespace Fixture

inductive Event where
  | declare (type name value : String)
  | declareList (element name : String)
  | declareSet (element name : String)
  | append (collection value : String)
  | call (owner method argument : String)
  | blank
  deriving BEq, DecidableEq, Inhabited

namespace Event

/-- The statement of an event, without its indentation and semicolon. -/
def statement? : Event → Option String
  | declare type name value => some s!"final {type} {name} = {value}"
  | declareList element name => some s!"final List<{element}> {name} = new ArrayList<>()"
  | declareSet element name => some s!"final Set<{element}> {name} = new HashSet<>()"
  | append collection value => some s!"{collection}.add({value})"
  | call owner method argument => some s!"{owner}.{method}({argument})"
  | blank => none

end Event

/-- Something that takes events in, one after the other. -/
class Sink (σ : Type) where
  /-- The sink before any event. -/
  fresh : σ
  accept : σ → Event → σ

/-- All events in their order. -/
abbrev Log := Array Event

instance : Sink Log := ⟨#[], Array.push⟩

@[simp] theorem Log.accept_eq (log : Log) (event : Event) :
    Sink.accept log event = log.push event := rfl

/-- Text printed so far; after a blank line another one adds nothing. -/
structure Printer where
  text : String := ""
  afterBlank : Bool := false

namespace Printer

def print (self : Printer) (event : Event) : Printer :=
  match event.statement? with
  | some statement => ⟨self.text ++ "    " ++ statement ++ ";\n", false⟩
  | none => ⟨if self.afterBlank then self.text else self.text ++ "\n", true⟩

def printAll (self : Printer) (events : List Event) : Printer := events.foldl print self

theorem printAll_append (self : Printer) (first second : List Event) :
    self.printAll (first ++ second) = (self.printAll first).printAll second := by
  rw [printAll, printAll, printAll, List.foldl_append]

end Printer

instance : Sink Printer := ⟨{}, Printer.print⟩

/-- The text of events. -/
def render (events : List Event) : String := (Printer.printAll {} events).text

end Fixture

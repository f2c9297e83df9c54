import Fixture.Json.Flaw

/-!
# Readers

A reader takes bytes from the front of a document and gives a value or a flaw. The cursor knows the
line and the column it has come to, and a reader can only ever move it on: that is part of its type,
so whatever takes one byte before it starts again comes to an end.
-/

namespace Fixture.Json

/-- The bytes still to be read, and the place reached. -/
structure Cursor where
  rest : List UInt8
  line : Nat := 1
  column : Nat := 0

namespace Cursor

/-- The place after one more byte. -/
def after (self : Cursor) (b : UInt8) (rest : List UInt8) : Cursor :=
  if b == 0x0A then ⟨rest, self.line + 1, 0⟩ else ⟨rest, self.line, self.column + 1⟩

@[simp] theorem rest_after (self : Cursor) (b : UInt8) (rest : List UInt8) :
    (self.after b rest).rest = rest := by
  unfold after
  split <;> rfl

end Cursor

/-- Reads a value and leaves the cursor no further back than it was. -/
def Reader (α : Type) : Type :=
  (start : Cursor) → Except Flaw (α × { stop : Cursor // stop.rest.length ≤ start.rest.length })

namespace Reader

variable {α β σ : Type}

protected def pure (value : α) : Reader α := fun start =>
  .ok (value, ⟨start, Nat.le_refl _⟩)

protected def bind (first : Reader α) (next : α → Reader β) : Reader β := fun start =>
  match first start with
  | .error flaw => .error flaw
  | .ok (value, ⟨middle, hmiddle⟩) =>
    match next value middle with
    | .error flaw => .error flaw
    | .ok (result, ⟨stop, hstop⟩) => .ok (result, ⟨stop, Nat.le_trans hstop hmiddle⟩)

instance : Monad Reader where
  pure := Reader.pure
  bind := Reader.bind

/-- The next byte, which is not taken. -/
def peek : Reader (Option UInt8) := fun start =>
  .ok (start.rest.head?, ⟨start, Nat.le_refl _⟩)

/-- The next byte, which is taken. -/
def next? : Reader (Option UInt8) := fun start =>
  match hrest : start.rest with
  | [] => .ok (none, ⟨start, by simp [hrest]⟩)
  | b :: rest => .ok (some b, ⟨start.after b rest, by simp⟩)

/-- Takes a byte that has been seen. -/
def skip : Reader Unit := do
  let _ ← next?

/-- A refusal at the place reached. -/
def fail (reason : Reason) : Reader α := fun start =>
  .error ⟨[], reason, start.line, start.column⟩

/-- A refusal of the next byte: its place counts that byte, if there is one. -/
def refuse (reason : Reason) : Reader α := do
  skip
  fail reason

/-- What a reader reads lies one step inside. -/
def within (step : Step) (reader : Reader α) : Reader α := fun start =>
  match reader start with
  | .error flaw => .error { flaw with path := step :: flaw.path }
  | .ok result => .ok result

/-- The bytes ahead that belong to a class, none of which is taken. -/
def ahead (belongs : UInt8 → Bool) : Reader (List UInt8) := fun start =>
  .ok (start.rest.takeWhile belongs, ⟨start, Nat.le_refl _⟩)

/-- Takes as many bytes as asked for, fewer only at the end. -/
def take : Nat → Reader (List UInt8)
  | 0 => pure []
  | count + 1 => do
    match ← next? with
    | none => pure []
    | some b => return b :: (← take count)

/-- Takes bytes as long as they belong to a class. -/
def takeWhile (belongs : UInt8 → Bool) : Reader (List UInt8) := do
  let bytes ← ahead belongs
  take bytes.length

/-- Blank, tab and the two line ends. -/
def isBlank (b : UInt8) : Bool := b == 0x20 || b == 0x09 || b == 0x0A || b == 0x0D

/-- The next byte after white space. -/
def peekPastBlanks : Reader (Option UInt8) := do
  let _ ← takeWhile isBlank
  peek

/-- Rounds that each take one byte, until one of them gives a result or the document ends. -/
def rounds (round : UInt8 → σ → Reader (σ ⊕ β)) (atEnd : σ → Reader β) (state : σ) :
    Reader β := fun start =>
  match hrest : start.rest with
  | [] =>
    match atEnd state start with
    | .error flaw => .error flaw
    | .ok (result, ⟨stop, hstop⟩) => .ok (result, ⟨stop, by simpa only [hrest] using hstop⟩)
  | b :: rest =>
    match round b state (start.after b rest) with
    | .error flaw => .error flaw
    | .ok (.inr result, ⟨stop, hstop⟩) => .ok (result, ⟨stop, by
        simp only [Cursor.rest_after] at hstop
        simp only [List.length_cons]
        omega⟩)
    | .ok (.inl state, ⟨middle, hmiddle⟩) =>
      have hless : middle.rest.length < start.rest.length := by
        simp only [Cursor.rest_after] at hmiddle
        simp only [hrest, List.length_cons]
        omega
      match rounds round atEnd state middle with
      | .error flaw => .error flaw
      | .ok (result, ⟨stop, hstop⟩) => .ok (result, ⟨stop, by rw [← hrest]; omega⟩)
termination_by start => start.rest.length

/-- Reads a value from the front of a document; what follows it is not looked at. -/
def run (reader : Reader α) (bytes : List UInt8) : Except Flaw α :=
  match reader ⟨bytes, 1, 0⟩ with
  | .error flaw => .error flaw
  | .ok (value, _) => .ok value

end Reader

end Fixture.Json

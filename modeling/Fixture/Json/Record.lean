import Fixture.Json.Scalar

/-!
# Lists and records

A list holds values of one kind. A record is a document's form of a structure: its fields are known
by name, each may occur once, and those that are required must occur. A record may be written as an
object, with its fields in any order, or as a list of the values in the order of the fields, of
which those at the end may be missing.
-/

namespace Fixture.Json

/-- A field of a record, and how its value goes into what has been read of the record. -/
structure Field (σ : Type) where
  name : String
  required : Bool
  read : σ → Reader σ

/-- A kind of record: what messages call it, its fields in order, and the record before any field is
read. -/
structure Record (σ : Type) where
  title : String
  fields : List (Field σ)
  blank : σ

namespace Reader

variable {α σ : Type}

/-- Whether a list goes on before its closing bracket, which is not taken. -/
def goesOn (isFirst : Bool) : Reader Bool := do
  match ← peekPastBlanks with
  | none => refuse .endInList
  | some 0x5D => pure false
  | some b =>
    if isFirst then pure true
    else if b == 0x2C then
      skip
      match ← peekPastBlanks with
      | none => refuse .endInValue
      | some 0x5D => refuse .trailingComma
      | some _ => pure true
    else refuse .listSeparatorExpected

/-- The closing bracket of a list that holds all its values. -/
def closeList : Reader Unit := do
  match ← peekPastBlanks with
  | none => refuse .endInList
  | some 0x5D => skip
  | some 0x2C =>
    skip
    if (← peekPastBlanks) == some 0x5D then refuse .trailingComma else refuse .trailingCharacters
  | some _ => refuse .trailingCharacters

/-- A list of values. -/
def list (element : Reader α) : Reader (List α) := do
  if (← valueStart) == 0x5B then
    skip
    if ← goesOn true then
      let first ← within (.index 0) element
      let _ ← peekPastBlanks
      let taken ← rounds listRound (fun _ => fail .endInList) [first]
      pure taken.reverse
    else
      skip
      pure []
  else unexpected "a sequence"
where
  /-- A comma with the element behind it, or the closing bracket; the elements so far stand in
  reverse. -/
  listRound (b : UInt8) (taken : List α) : Reader (List α ⊕ List α) := do
    if b == 0x5D then pure (.inr taken)
    else if b == 0x2C then
      match ← peekPastBlanks with
      | none => refuse .endInValue
      | some 0x5D => refuse .trailingComma
      | some _ =>
        let next ← within (.index taken.length) element
        let _ ← peekPastBlanks
        pure (.inl (next :: taken))
    else fail .listSeparatorExpected

end Reader

namespace Record

open Reader

variable {σ : Type} (record : Record σ)

/-- The fields from a position on, written as a list. -/
def fromList (position : Nat) : List (Field σ) → σ → Reader σ
  | [], value => do
    closeList
    pure value
  | field :: others, value => do
    if ← goesOn (position == 0) then
      let value ← within (.index position) (field.read value)
      fromList (position + 1) others value
    else
      skip
      match (field :: others).findIdx? (·.required) with
      | none => pure value
      | some missing =>
        fail (.invalidLength (position + missing) record.title record.fields.length)

/-- The record at its closing brace, which has been taken. -/
def finish (unread : List (Field σ)) (value : σ) : Reader σ :=
  match unread.find? (·.required) with
  | none => pure value
  | some field => fail (.missingField field.name)

/-- Where an object is given up for a field that it cannot have: at what follows the name, or behind
the closing brace. -/
def giveUp (reason : Reason) {α : Type} : Reader α := do
  if (← peekPastBlanks) == some 0x7D then skip
  fail reason

/-- A field whose name begins with the next byte. -/
def entry (unread : List (Field σ)) (value : σ) : Reader (List (Field σ) × σ) := do
  let name ← within .unnamed (do skip; text)
  match unread.find? (·.name == name) with
  | some field =>
    match ← peekPastBlanks with
    | some 0x3A => skip
    | some _ => refuse .colonExpected
    | none => refuse .endInObject
    let value ← within (.key name) (field.read value)
    let _ ← peekPastBlanks
    pure (unread.filter (·.name != name), value)
  | none =>
    let known := record.fields.map (·.name)
    if known.contains name then giveUp (.duplicateField name)
    else within (.key name) (giveUp (.unknownField name known))

/-- A comma with the field behind it, or the closing brace. -/
def objectRound (b : UInt8) (state : List (Field σ) × σ) :
    Reader ((List (Field σ) × σ) ⊕ σ) := do
  if b == 0x7D then .inr <$> finish state.1 state.2
  else if b == 0x2C then
    within .unnamed do
      match ← peekPastBlanks with
      | none => refuse .endInValue
      | some 0x22 => pure ()
      | some 0x7D => refuse .trailingComma
      | some _ => refuse .textKeyExpected
    .inl <$> record.entry state.1 state.2
  else within .unnamed (fail .objectSeparatorExpected)

/-- The record, written as an object or as a list. -/
def read : Reader σ := do
  let first ← valueStart
  if first == 0x7B then
    skip
    let atEnd {α : Type} (_ : List (Field σ) × σ) : Reader α := within .unnamed (fail .endInObject)
    match ← peekPastBlanks with
    | none => atEnd ([], record.blank)
    | some 0x7D =>
      skip
      finish record.fields record.blank
    | some 0x22 =>
      let state ← record.entry record.fields record.blank
      rounds record.objectRound atEnd state
    | some _ => within .unnamed (refuse .textKeyExpected)
  else if first == 0x5B then
    skip
    record.fromList 0 record.fields record.blank
  else unexpected record.title

end Record

end Fixture.Json

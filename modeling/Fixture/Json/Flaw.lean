import Fixture.Decimal.Shortest
import Fixture.Text.Visible

/-!
# Flaws of a document

A document is refused at one place, for one reason, on the way to one value. The place is a line and
the bytes since its start, the reason a cause with its data, the way a list of steps from the whole
document.
-/

namespace Fixture.Json

/-- What stood where something else was due. -/
inductive Found where
  | null
  | boolean (value : Bool)
  | integer (value : Int)
  | float (value : Float)
  | text (value : String)
  | sequence
  | map

namespace Found

def message : Found → String
  | null => "null"
  | boolean value => if value then "boolean `true`" else "boolean `false`"
  | integer value => s!"integer `{value}`"
  | float value =>
    let shown := Decimal.ofDouble value
    s!"floating point `{shown}`"
  | text value => "string " ++ Text.visible value
  | sequence => "sequence"
  | map => "map"

end Found

/-- Why reading cannot go on. -/
inductive Reason where
  | endInList
  | endInObject
  | endInText
  | endInValue
  | colonExpected
  | listSeparatorExpected
  | objectSeparatorExpected
  | wordExpected
  | valueExpected
  | invalidEscape
  | invalidNumber
  | numberOutOfRange
  | invalidCodePoint
  | controlCharacter
  | textKeyExpected
  | loneSurrogate
  | secondSurrogateExpected
  | trailingComma
  | trailingCharacters
  | invalidType (found : Found) (wanted : String)
  | invalidValue (found : Found) (wanted : String)
  | invalidLength (length : Nat) (wanted : String) (total : Nat)
  | unknownField (name : String) (known : List String)
  | missingField (name : String)
  | duplicateField (name : String)

namespace Reason

/-- The known names of fields, as alternatives. -/
def alternatives : List String → String
  | [first, second] => s!"`{first}` or `{second}`"
  | names => "one of " ++ ", ".intercalate (names.map fun name => s!"`{name}`")

def message : Reason → String
  | endInList => "EOF while parsing a list"
  | endInObject => "EOF while parsing an object"
  | endInText => "EOF while parsing a string"
  | endInValue => "EOF while parsing a value"
  | colonExpected => "expected `:`"
  | listSeparatorExpected => "expected `,` or `]`"
  | objectSeparatorExpected => "expected `,` or `\x7d`"
  | wordExpected => "expected ident"
  | valueExpected => "expected value"
  | invalidEscape => "invalid escape"
  | invalidNumber => "invalid number"
  | numberOutOfRange => "number out of range"
  | invalidCodePoint => "invalid unicode code point"
  | controlCharacter => "control character (\\u0000-\\u001F) found while parsing a string"
  | textKeyExpected => "key must be a string"
  | loneSurrogate => "lone leading surrogate in hex escape"
  | secondSurrogateExpected => "unexpected end of hex escape"
  | trailingComma => "trailing comma"
  | trailingCharacters => "trailing characters"
  | invalidType found wanted => "invalid type: " ++ found.message ++ ", expected " ++ wanted
  | invalidValue found wanted => "invalid value: " ++ found.message ++ ", expected " ++ wanted
  | invalidLength length wanted total =>
    s!"invalid length {length}, expected {wanted} with {total} elements"
  | unknownField name known => s!"unknown field `{name}`, expected " ++ alternatives known
  | missingField name => s!"missing field `{name}`"
  | duplicateField name => s!"duplicate field `{name}`"

end Reason

/-- One step from a value to a value inside it. -/
inductive Step where
  | key (name : String)
  | index (position : Nat)
  /-- A field whose name is still being read. -/
  | unnamed

/-- A refusal: the reason, the place and the way. -/
structure Flaw where
  path : List Step
  reason : Reason
  line : Nat
  column : Nat

namespace Flaw

private def stepsText : List Step → String
  | [] => ""
  | .key name :: rest => "." ++ name ++ stepsText rest
  | .index position :: rest => s!"[{position}]" ++ stepsText rest
  | .unnamed :: rest => ".?" ++ stepsText rest

/-- The way in one line: names joined by dots, positions in brackets, a dot for the whole
document. -/
def pathText (self : Flaw) : String :=
  match self.path with
  | [] => "."
  | .key name :: rest => name ++ stepsText rest
  | .unnamed :: rest => "?" ++ stepsText rest
  | steps => stepsText steps

def message (self : Flaw) : String :=
  let line := self.line
  let column := self.column
  let reason := self.reason.message
  let path := self.pathText
  s!"at JSON path {path} → {reason} at line {line} column {column}"

end Flaw

end Fixture.Json

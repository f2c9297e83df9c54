import Fixture.Json.Reader
import Fixture.Text.Utf8

/-!
# Words, texts and numbers

The values without parts. A text may hold escapes and must be UTF-8 once they are replaced; a number
is a whole number of at most 64 bits or else a double. Whatever stands where another value was due
is read far enough to be named.
-/

namespace Fixture.Json

namespace Reader

variable {α : Type}

/-- The letters of a word after its first. -/
def word : List UInt8 → Reader Unit
  | [] => pure ()
  | expected :: others => do
    match ← next? with
    | none => fail .endInValue
    | some b => if b == expected then word others else fail .wordExpected

def hexValue? (b : UInt8) : Option Nat :=
  if 0x30 ≤ b && b ≤ 0x39 then some (b.toNat - 0x30)
  else if 0x41 ≤ b && b ≤ 0x46 then some (b.toNat - 0x37)
  else if 0x61 ≤ b && b ≤ 0x66 then some (b.toNat - 0x57)
  else none

/-- Four hexadecimal digits. -/
def codeUnit : Reader Nat := do
  let digits ← take 4
  if digits.length < 4 then fail .endInText
  else
    match digits.mapM hexValue? with
    | none => fail .invalidEscape
    | some values => pure (values.foldl (fun sum value => sum * 16 + value) 0)

/-- The bytes of a character given by its code point. -/
def charBytes (point : Nat) : List UInt8 := (String.singleton (Char.ofNat point)).toUTF8.toList

/-- The second half of a character outside the basic plane. -/
def secondSurrogate (first : Nat) : Reader (List UInt8) := do
  for expected in [(0x5C : UInt8), 0x75] do
    match ← next? with
    | none => fail .endInText
    | some b => if b != expected then fail .secondSurrogateExpected
  let second ← codeUnit
  if 0xDC00 ≤ second && second ≤ 0xDFFF then
    pure (charBytes ((first - 0xD800) * 0x400 + (second - 0xDC00) + 0x10000))
  else fail .loneSurrogate

/-- What a backslash stands for together with what follows it. -/
def escape : Reader (List UInt8) := do
  match ← next? with
  | none => fail .endInText
  | some 0x22 => pure [0x22]
  | some 0x5C => pure [0x5C]
  | some 0x2F => pure [0x2F]
  | some 0x62 => pure [0x08]
  | some 0x66 => pure [0x0C]
  | some 0x6E => pure [0x0A]
  | some 0x72 => pure [0x0D]
  | some 0x74 => pure [0x09]
  | some 0x75 =>
    let unit ← codeUnit
    if 0xDC00 ≤ unit && unit ≤ 0xDFFF then fail .loneSurrogate
    else if 0xD800 ≤ unit && unit ≤ 0xDBFF then secondSurrogate unit
    else pure (charBytes unit)
  | some _ => fail .invalidEscape

/-- The characters of a text. Its first byte that belongs to none is blamed by its distance from the
end. -/
def decoded (bytes : List UInt8) : Reader String := fun start =>
  match Text.decodeUtf8 bytes with
  | (chars, []) => Reader.pure (String.ofList chars) start
  | (_, left) => .error ⟨[], .invalidCodePoint, start.line, start.column - left.length⟩

/-- A text after its opening quote. -/
def text : Reader String := do
  let bytes ← rounds textRound (fun _ => fail .endInText) []
  decoded bytes.reverse
where
  /-- One character of the text or its closing quote; the bytes so far stand in reverse. -/
  textRound (b : UInt8) (taken : List UInt8) : Reader (List UInt8 ⊕ List UInt8) := do
    if b == 0x22 then pure (.inr taken)
    else if b == 0x5C then
      let bytes ← escape
      pure (.inl (bytes.reverse ++ taken))
    else if b < 0x20 then fail .controlCharacter
    else pure (.inl (b :: taken))

end Reader

/-- A number as it is read: a double wherever 64 bits do not hold it or a fraction or an exponent is
written. -/
inductive Number where
  | integer (value : Int)
  | float (value : Float)

namespace Number

def found : Number → Found
  | integer value => .integer value
  | float value => .float value

/-- The double nearest to a significand and a power of ten, in one multiplication or division
wherever one suffices. -/
def ofParts (negative : Bool) (significand : Nat) (exponent : Int) : Option Float :=
  (scale significand.toUInt64.toFloat exponent).map fun x => if negative then -x else x
where
  scale (x : Float) (exponent : Int) : Option Float :=
    if exponent < -308 then
      if x == 0 then some x else scale (x / Float.ofScientific 1 false 308) (exponent + 308)
    else if exponent < 0 then some (x / Float.ofScientific 1 false exponent.natAbs)
    else if exponent ≤ 308 then
      let scaled := x * Float.ofScientific 1 false exponent.natAbs
      if scaled.isInf then none else some scaled
    else if x == 0 then some x
    else none
  termination_by exponent.natAbs
  decreasing_by omega

end Number

namespace Reader

def isDigit (b : UInt8) : Bool := 0x30 ≤ b && b ≤ 0x39

def digitValue (b : UInt8) : Nat := b.toNat - 0x30

/-- The largest whole number of 64 bits. -/
def largestWord : Nat := Nat.pow 2 64 - 1

/-- A number with as many further digits as keep it within a limit, and the digits that are left. -/
def absorb (limit : Nat) : Nat → List UInt8 → Nat × List UInt8
  | held, [] => (held, [])
  | held, digit :: others =>
    let longer := held * 10 + digitValue digit
    if longer ≤ limit then absorb limit longer others else (held, digit :: others)

def double (negative : Bool) (significand : Nat) (exponent : Int) : Reader Number :=
  match Number.ofParts negative significand exponent with
  | none => fail .numberOutOfRange
  | some x => pure (.float x)

/-- An exponent after its mark. One that no 32-bit integer holds makes the number zero or puts it
out of range at once. -/
def exponent (negative : Bool) (significand : Nat) (scale : Int) : Reader Number := do
  let sign ← peek
  if sign == some 0x2B || sign == some 0x2D then skip
  match ← peek with
  | none => fail .endInValue
  | some b => if !isDigit b then refuse .invalidNumber
  let digits ← ahead isDigit
  let (size, left) := absorb (Nat.pow 2 31 - 1) 0 digits
  if left.isEmpty then
    let _ ← take digits.length
    double negative significand (if sign == some 0x2D then scale - size else scale + size)
  else if significand != 0 && sign != some 0x2D then
    let _ ← take (digits.length - left.length + 1)
    fail .numberOutOfRange
  else
    let _ ← take digits.length
    double negative 0 0

/-- An exponent, if one is marked. -/
def exponentPart (negative : Bool) (significand : Nat) (scale : Int) : Reader Number := do
  let mark ← peek
  if mark == some 0x65 || mark == some 0x45 then
    skip
    exponent negative significand scale
  else double negative significand scale

/-- The digits after the point. -/
def fraction (negative : Bool) (significand : Nat) (scale : Int) : Reader Number := do
  let digits ← takeWhile isDigit
  if digits.isEmpty then
    match ← peek with
    | none => refuse .endInValue
    | some _ => refuse .invalidNumber
  else
    let (significand, left) := absorb largestWord significand digits
    exponentPart negative significand (scale - (digits.length - left.length : Nat))

/-- A number after its sign. -/
def number (negative : Bool) : Reader Number := do
  match ← next? with
  | none => fail .endInValue
  | some first =>
    if !isDigit first then fail .invalidNumber
    else
      let following ← if first == 0x30 then ahead isDigit else takeWhile isDigit
      if first == 0x30 && !following.isEmpty then refuse .invalidNumber
      else
        let (significand, left) := absorb largestWord (digitValue first) following
        let mark ← peek
        if mark == some 0x2E then
          skip
          fraction negative significand left.length
        else if mark == some 0x65 || mark == some 0x45 || !left.isEmpty then
          exponentPart negative significand left.length
        else if !negative then pure (.integer significand)
        else if 0 < significand && significand ≤ Nat.pow 2 63 then pure (.integer (-significand))
        else pure (.float (-significand.toUInt64.toFloat))

/-- Refuses the next value, which is read as far as it takes to name it. -/
def unexpected (wanted : String) : Reader α := do
  match ← peek with
  | some 0x6E => skip; word "ull".toUTF8.toList; fail (.invalidType .null wanted)
  | some 0x74 => skip; word "rue".toUTF8.toList; fail (.invalidType (.boolean true) wanted)
  | some 0x66 => skip; word "alse".toUTF8.toList; fail (.invalidType (.boolean false) wanted)
  | some 0x2D => skip; let n ← number true; fail (.invalidType n.found wanted)
  | some 0x22 => skip; let found ← text; fail (.invalidType (.text found) wanted)
  | some 0x5B => fail (.invalidType .sequence wanted)
  | some 0x7B => fail (.invalidType .map wanted)
  | some b =>
    if isDigit b then
      let n ← number false
      fail (.invalidType n.found wanted)
    else refuse .valueExpected
  | none => refuse .valueExpected

/-- The first byte of a value that is due. -/
def valueStart : Reader UInt8 := do
  match ← peekPastBlanks with
  | none => refuse .endInValue
  | some b => pure b

def string : Reader String := do
  if (← valueStart) == 0x22 then
    skip
    text
  else unexpected "a string"

/-- A whole number from zero up, called by the name of its type. -/
def word64 (wanted : String) : Reader Nat := do
  let first ← valueStart
  if first == 0x2D then skip
  if first == 0x2D || isDigit first then
    match ← number (first == 0x2D) with
    | .integer (.ofNat value) => pure value
    | .integer value => fail (.invalidValue (.integer value) wanted)
    | .float value => fail (.invalidType (.float value) wanted)
  else unexpected wanted

/-- A value, or null in its place. -/
def orNull (value : Reader α) : Reader (Option α) := do
  if (← peekPastBlanks) == some 0x6E then
    skip
    word "ull".toUTF8.toList
    pure none
  else some <$> value

end Reader

end Fixture.Json

import Fixture.Literal

/-!
# Reading string literals

What a Java compiler makes of the text of a string literal, in its two stages. First the escapes of
units are replaced, anywhere in the text: a backslash with an even number of backslashes directly
before it, `u` once or several times, and four hexadecimal digits. Only then is a literal taken from
the front of the text and its short and octal escapes are replaced. Neither stage knows how literals
are written. Values are UTF-16 units, and the characters that units spell are told at the end.
-/

namespace Fixture.Literal

/-! ### Escapes of units -/

def hexValue? (c : Char) : Option Nat :=
  if '0' ≤ c ∧ c ≤ '9' then some (c.toNat - '0'.toNat)
  else if 'A' ≤ c ∧ c ≤ 'F' then some (c.toNat - 'A'.toNat + 10)
  else if 'a' ≤ c ∧ c ≤ 'f' then some (c.toNat - 'a'.toNat + 10)
  else none

/-- The unit that four digits spell behind any number of `u`, with what follows it. -/
def spelledUnit? (text : List Char) : Option (Nat × List Char) :=
  match text.dropWhile (· == 'u') with
  | a :: b :: c :: d :: rest => do
    let a ← hexValue? a
    let b ← hexValue? b
    let c ← hexValue? c
    let d ← hexValue? d
    return (((a * 16 + b) * 16 + c) * 16 + d, rest)
  | _ => none

theorem length_of_spelledUnit? {text rest : List Char} {unit : Nat}
    (h : spelledUnit? text = some (unit, rest)) : rest.length ≤ text.length := by
  have hle := (List.dropWhile_suffix (· == 'u') (l := text)).length_le
  unfold spelledUnit? at h
  split at h
  · next hdrop =>
    simp only [Option.bind_eq_bind, Option.bind_eq_some_iff, pure, Option.some.injEq,
      Prod.mk.injEq] at h
    obtain ⟨_, -, _, -, _, -, _, -, -, rfl⟩ := h
    rw [hdrop] at hle
    simp only [List.length_cons] at hle
    omega
  · cases h

/-- The units of a text, its escapes of units replaced. The number of backslashes directly before
the text is odd or even. -/
def translate (odd : Bool) : List Char → Option (List Nat)
  | [] => some []
  | c :: rest =>
    if c ≠ '\\' then (translate false rest).map (units c ++ ·)
    else if odd ∨ rest.head? ≠ some 'u' then (translate (!odd) rest).map ('\\'.toNat :: ·)
    else
      match h : spelledUnit? rest with
      | none => none
      | some (unit, after) =>
        have := length_of_spelledUnit? h
        (translate false after).map (unit :: ·)
termination_by text => text.length
decreasing_by all_goals simp only [List.length_cons]; omega

/-! ### Literals -/

/-- What a letter or a mark stands for behind a backslash. -/
def shortEscape? (unit : Nat) : Option Nat :=
  match Char.ofNat unit with
  | 'b' => some 0x08
  | 't' => some 0x09
  | 'n' => some 0x0A
  | 'f' => some 0x0C
  | 'r' => some 0x0D
  | 's' => some 0x20
  | '"' => some 0x22
  | '\'' => some 0x27
  | '\\' => some 0x5C
  | _ => none

def isOctal (unit : Nat) : Bool := '0'.toNat ≤ unit && unit ≤ '7'.toNat

/-- One or two octal digits, or three if the first is at most 3, with what follows them. -/
def octal? (text : List Nat) : Option (Nat × List Nat) :=
  let most := if text.headD 0 ≤ '3'.toNat then 3 else 2
  match (text.take most).takeWhile isOctal with
  | [] => none
  | digits =>
    some (digits.foldl (fun sum digit => sum * 8 + (digit - '0'.toNat)) 0, text.drop digits.length)

/-- What a backslash stands for together with what follows it. -/
def escaped? : List Nat → Option (Nat × List Nat)
  | [] => none
  | unit :: rest =>
    match shortEscape? unit with
    | some value => some (value, rest)
    | none => octal? (unit :: rest)

theorem length_of_escaped? {text rest : List Nat} {value : Nat}
    (h : escaped? text = some (value, rest)) : rest.length < text.length := by
  unfold escaped? at h
  split at h
  · cases h
  · split at h
    · cases h
      simp
    · unfold octal? at h
      dsimp only at h
      split at h
      · cases h
      · next hne =>
        cases h
        have hpos := List.length_pos_iff.2 hne
        simp only [List.length_drop, List.length_cons]
        omega

/-- The value of a literal behind its opening quote, with what follows its closing quote. No line
ends inside a literal. -/
def contents : List Nat → Option (List Nat × List Nat)
  | [] => none
  | unit :: rest =>
    if unit = '"'.toNat then some ([], rest)
    else if unit = '\n'.toNat ∨ unit = '\r'.toNat then none
    else if unit = '\\'.toNat then
      match h : escaped? rest with
      | none => none
      | some (value, after) =>
        have := length_of_escaped? h
        (contents after).map fun (values, left) => (value :: values, left)
    else (contents rest).map fun (values, left) => (unit :: values, left)
termination_by text => text.length
decreasing_by all_goals simp only [List.length_cons]; omega

/-- The value of the string literal at the front of a text, with the units that follow it. Three
quotes open no string literal but a block of text. -/
def read (text : List Char) : Option (List Nat × List Nat) := do
  let all ← translate false text
  let quote := '"'.toNat
  if all.head? ≠ some quote ∨ all.take 3 = [quote, quote, quote] then none
  else contents all.tail

/-! ### Units -/

/-- The characters that UTF-16 units spell. The halves of a pair spell nothing on their own. -/
def ofUnits : List Nat → Option (List Char)
  | [] => some []
  | unit :: rest =>
    if unit < 0xD800 ∨ 0xE000 ≤ unit ∧ unit < 0x10000 then
      (ofUnits rest).map (Char.ofNat unit :: ·)
    else
      match rest with
      | [] => none
      | second :: rest =>
        if unit < 0xDC00 ∧ 0xDC00 ≤ second ∧ second < 0xE000 then
          (ofUnits rest).map
            (Char.ofNat (0x10000 + (unit - 0xD800) * 0x400 + (second - 0xDC00)) :: ·)
        else none

end Fixture.Literal

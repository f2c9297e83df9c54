import Fixture.Ty.Basic
import Fixture.Unicode.Alphabetic
import Fixture.Unicode.Numeric
import Fixture.Unicode.Space

/-!
# Type expressions

The text of a type: a name, or a name with one or more arguments in angle brackets, with white space
before any of its parts and at the end. Reading goes from left to right and every part leaves a
shorter text, which is also what bounds the nesting. A flaw is told by its place, counted in bytes
of the text.
-/

namespace Fixture.Ty

def isNameStart (c : Char) : Bool :=
  Unicode.isAlphabetic c || c == '_' || c == '$'

def isNamePart (c : Char) : Bool :=
  Unicode.isAlphabetic c || Unicode.isNumeric c || c == '_' || c == '$' || c == '.'

/-- No segment after the first is empty. -/
def wellDotted : List Char → Bool
  | [] => true
  | ['.'] => false
  | '.' :: '.' :: _ => false
  | _ :: rest => wellDotted rest

/-- Why a text is no type expression. Places are offsets in bytes. -/
inductive Flaw where
  | nameExpected (offset : Nat)
  | badName (name : String)
  | closingExpected (offset : Nat)
  | trailingInput (offset : Nat)

namespace Flaw

def message : Flaw → String
  | nameExpected offset => s!"expected a type name at offset {offset}"
  | badName name => s!"bad qualified name `{name}`"
  | closingExpected offset => s!"expected `,` or `>` at offset {offset}"
  | trailingInput offset => s!"unexpected trailing input at offset {offset}"

end Flaw

namespace Parser

/-- A flaw met while reading, its place told by the text that is left. -/
inductive Stop where
  | nameExpected (rest : List Char)
  | badName (name : String)
  | closingExpected (rest : List Char)

def skipSpace (text : List Char) : List Char := text.dropWhile Unicode.isSpace

theorem length_skipSpace_le (text : List Char) : (skipSpace text).length ≤ text.length :=
  (List.dropWhile_suffix _).length_le

/-- A name after white space, with what follows it. -/
def name (text : List Char) :
    Except Stop (String × { rest : List Char // rest.length < text.length }) :=
  match hskip : skipSpace text with
  | [] => .error (.nameExpected [])
  | first :: rest =>
    if isNameStart first then
      let letters := first :: rest.takeWhile isNamePart
      if wellDotted letters then
        .ok (String.ofList letters, ⟨rest.dropWhile isNamePart, by
          have hle := length_skipSpace_le text
          have hdrop := (List.dropWhile_suffix isNamePart (l := rest)).length_le
          rw [hskip] at hle
          simp only [List.length_cons] at hle
          omega⟩)
      else
        .error (.badName (String.ofList letters))
    else
      .error (.nameExpected (first :: rest))

mutual

/-- A type, with what follows it. -/
def expression (text : List Char) :
    Except Stop (Ty × { rest : List Char // rest.length < text.length }) :=
  match name text with
  | .error stop => .error stop
  | .ok (raw, ⟨rest, hrest⟩) =>
    match hskip : skipSpace rest with
    | '<' :: inner =>
      have hinner : inner.length < text.length := by
        have := length_skipSpace_le rest
        rw [hskip] at this
        simp only [List.length_cons] at this
        omega
      match expression inner with
      | .error stop => .error stop
      | .ok (first, ⟨afterFirst, hfirst⟩) =>
        match arguments afterFirst with
        | .error stop => .error stop
        | .ok (others, ⟨afterAll, hall⟩) =>
          if afterAll.head? = some '>' then
            .ok (applied raw (first :: others), ⟨afterAll.tail, by
              rw [List.length_tail]
              omega⟩)
          else .error (.closingExpected afterAll)
    | _ => .ok (named raw, ⟨rest, hrest⟩)
termination_by text.length

/-- The arguments after the first, each behind a comma, with what follows them and the white space
there skipped. -/
def arguments (text : List Char) :
    Except Stop (List Ty × { rest : List Char // rest.length ≤ text.length }) :=
  match hskip : skipSpace text with
  | ',' :: afterComma =>
    have hcomma : afterComma.length < text.length := by
      have := length_skipSpace_le text
      rw [hskip] at this
      simp only [List.length_cons] at this
      omega
    match expression afterComma with
    | .error stop => .error stop
    | .ok (next, ⟨afterNext, hnext⟩) =>
      match arguments afterNext with
      | .error stop => .error stop
      | .ok (others, ⟨rest, hrest⟩) => .ok (next :: others, ⟨rest, by omega⟩)
  | rest => .ok ([], ⟨rest, by
      have := length_skipSpace_le text
      rw [hskip] at this
      exact this⟩)
termination_by text.length

end

/-- The size of a text in bytes. -/
def byteSize (text : List Char) : Nat := text.foldr (fun c size => c.utf8Size + size) 0

end Parser

open Fixture.Ty.Parser in
/-- The type a text spells. -/
def parse (text : String) : Except Flaw Ty :=
  let offset (rest : List Char) := byteSize text.toList - byteSize rest
  match expression text.toList with
  | .error (.nameExpected rest) => .error (.nameExpected (offset rest))
  | .error (.badName name) => .error (.badName name)
  | .error (.closingExpected rest) => .error (.closingExpected (offset rest))
  | .ok (ty, ⟨rest, _⟩) =>
    match skipSpace rest with
    | [] => .ok ty
    | left => .error (.trailingInput (offset left))

end Fixture.Ty

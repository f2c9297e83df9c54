/-!
# Reading UTF-8

Characters are read one at a time from the front of a list of bytes. A sequence is read only in its
shortest form and only if it stands for a character, so what is left when reading stops begins with
the first byte that belongs to no character.
-/

namespace Fixture.Text

private def isContinuation (b : UInt8) : Bool := 0x80 ≤ b && b ≤ 0xBF

/-- The character that a byte begins, with the number of bytes behind it that belong to it. -/
def charFrom? (b : UInt8) (behind : List UInt8) : Option (Char × Nat) :=
  let low (b : UInt8) : Nat := b.toNat - 0x80
  if b < 0x80 then some (Char.ofNat b.toNat, 0)
  else if 0xC2 ≤ b && b ≤ 0xDF then
    match behind with
    | b₁ :: _ =>
      if isContinuation b₁ then some (Char.ofNat ((b.toNat - 0xC0) * 64 + low b₁), 1) else none
    | _ => none
  else if 0xE0 ≤ b && b ≤ 0xEF then
    match behind with
    | b₁ :: b₂ :: _ =>
      let lowest : UInt8 := if b == 0xE0 then 0xA0 else 0x80
      let highest : UInt8 := if b == 0xED then 0x9F else 0xBF
      if lowest ≤ b₁ && b₁ ≤ highest && isContinuation b₂ then
        some (Char.ofNat ((b.toNat - 0xE0) * 4096 + low b₁ * 64 + low b₂), 2)
      else none
    | _ => none
  else if 0xF0 ≤ b && b ≤ 0xF4 then
    match behind with
    | b₁ :: b₂ :: b₃ :: _ =>
      let lowest : UInt8 := if b == 0xF0 then 0x90 else 0x80
      let highest : UInt8 := if b == 0xF4 then 0x8F else 0xBF
      if lowest ≤ b₁ && b₁ ≤ highest && isContinuation b₂ && isContinuation b₃ then
        some (Char.ofNat
          ((b.toNat - 0xF0) * 262144 + low b₁ * 4096 + low b₂ * 64 + low b₃), 3)
      else none
    | _ => none
  else none

/-- The characters up to the first byte that belongs to none, and the bytes from there on. -/
def decodeUtf8 : List UInt8 → List Char × List UInt8
  | [] => ([], [])
  | b :: behind =>
    match charFrom? b behind with
    | none => ([], b :: behind)
    | some (c, count) =>
      let (chars, left) := decodeUtf8 (behind.drop count)
      (c :: chars, left)
termination_by bytes => bytes.length
decreasing_by simp only [List.length_cons, List.length_drop]; omega

end Fixture.Text

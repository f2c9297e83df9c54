import Fixture.Calendar.Iso
import Fixture.Proofs.Calendar.Date

/-!
# Moments are read back from their text

Every field of a written moment is a padded number, and a padded number is read back where it is as
long as the longest number that may stand there, or where no digit follows it. So every moment that
exists is read back from its text, leap seconds included; and nothing else is ever read.
-/

namespace Fixture.Moment

/-! ### Numbers -/

/-- Digits, one at least, whose number this is. -/
structure Spelling (number : Nat) (digits : List Char) : Prop where
  ne_nil : digits ≠ []
  isDigit : ∀ c ∈ digits, c.isDigit = true
  value : Nat.ofDigitChars 10 digits 0 = number

theorem toList_pushn (text : String) (c : Char) (count : Nat) :
    (text.pushn c count).toList = text.toList ++ List.replicate count c := by
  rw [String.pushn_eq_repeat_push]
  induction count with
  | zero => simp [Nat.repeat]
  | succ count ih => simp [Nat.repeat, ih, List.replicate_succ']

theorem toList_padded (width number : Nat) :
    (padded width number).toList =
      List.replicate (width - (Nat.toDigits 10 number).length) '0' ++ Nat.toDigits 10 number := by
  have hlength : (Nat.repr number).length = (Nat.toDigits 10 number).length := by
    rw [← String.length_toList, Nat.toList_repr]
  rw [padded, String.toList_append, toList_pushn, hlength, Nat.toList_repr]
  rfl

theorem spelling_padded (width number : Nat) : Spelling number (padded width number).toList := by
  rw [toList_padded]
  refine ⟨by simp, fun c hc => ?_, ?_⟩
  · rcases List.mem_append.1 hc with hzero | hdigit
    · rw [List.eq_of_mem_replicate hzero]
      decide
    · exact Nat.isDigit_of_mem_toDigits (by decide) (by decide) hdigit
  · rw [Nat.ofDigitChars_append, Nat.ofDigitChars_replicate_zero, Nat.mul_zero]
    exact Nat.ofDigitChars_ten_toDigits

theorem length_padded {width number : Nat} (hwidth : 0 < width) (h : number < 10 ^ width) :
    (padded width number).toList.length = width := by
  have hle := (Nat.length_toDigits_le_iff (by decide) hwidth).2 h
  rw [toList_padded, List.length_append, List.length_replicate]
  omega

variable {number most : Nat} {digits rest : List Char}

theorem digits?_of_spelling (h : Spelling number digits) (hmost : digits.length ≤ most)
    (hend : digits.length = most ∨ ∀ c ∈ rest.head?, c.isDigit = false) :
    digits? most (digits ++ rest) = some (number, rest) := by
  have hrest : (rest.take (most - digits.length)).takeWhile Char.isDigit = [] := by
    rcases hend with heq | hnone
    · simp [heq]
    · cases rest with
      | nil => simp
      | cons c others =>
        cases most - digits.length with
        | zero => rfl
        | succ => simp [hnone c rfl]
  have htaken : ((digits ++ rest).take most).takeWhile Char.isDigit = digits := by
    rw [List.take_append, List.take_of_length_le hmost, List.takeWhile_append_of_pos h.isDigit,
      hrest, List.append_nil]
  have hvalue : digits.foldl (fun sum digit => sum * 10 + (digit.toNat - 48)) 0 = number := by
    rw [← h.value, Nat.ofDigitChars_eq_foldl]
    congr
    funext sum digit
    rw [Nat.mul_comm]
    rfl
  unfold digits?
  rw [htaken]
  split
  · exact absurd rfl h.ne_nil
  · rw [hvalue, List.drop_left]

/-! ### Fields -/

theorem isSpace_of_isDigit {c : Char} (h : c.isDigit = true) : Unicode.isSpace c = false := by
  have hall : ∀ offset < 10, Unicode.whiteSpace.covers ('0'.toNat + offset) = false := by decide
  obtain ⟨hfirst, hlast⟩ := Char.isDigit_iff_toNat.1 h
  have hlt : c.toNat - '0'.toNat < 10 := Nat.sub_lt_left_of_lt_add hfirst (Nat.lt_succ_of_le hlast)
  have hcovers := hall _ hlt
  rwa [Nat.add_sub_cancel' hfirst] at hcovers

theorem dropWhile_isSpace {c : Char} (h : Unicode.isSpace c = false) (rest : List Char) :
    (c :: rest).dropWhile Unicode.isSpace = c :: rest :=
  List.dropWhile_cons_of_neg (by simp [h])

theorem Spelling.exists_cons (h : Spelling number digits) :
    ∃ first others, digits = first :: others ∧ first.isDigit = true := by
  obtain ⟨first, others, rfl⟩ := List.exists_cons_of_ne_nil h.ne_nil
  exact ⟨first, others, rfl, h.isDigit first (List.mem_cons_self ..)⟩

theorem field?_padded {number : Nat} (h : number < 100) (rest : List Char) :
    field? ((padded 2 number).toList ++ rest) = some (number, rest) := by
  have hspelling := spelling_padded 2 number
  have hlength : (padded 2 number).toList.length = 2 := length_padded (by decide) h
  obtain ⟨first, others, hcons, hdigit⟩ := hspelling.exists_cons
  have hspace : ((padded 2 number).toList ++ rest).dropWhile Unicode.isSpace =
      (padded 2 number).toList ++ rest := by
    rw [hcons]
    exact dropWhile_isSpace (isSpace_of_isDigit hdigit) _
  rw [field?, hspace]
  exact digits?_of_spelling hspelling hlength.le (.inl hlength)

theorem digits?_padded_mark (number : Nat) (rest : List Char) :
    digits? ((padded 4 number).toList ++ '-' :: rest).length
      ((padded 4 number).toList ++ '-' :: rest) = some (number, '-' :: rest) := by
  apply digits?_of_spelling (spelling_padded 4 number)
  · rw [List.length_append]
    omega
  · right
    intro c hc
    obtain rfl : '-' = c := Option.some.inj hc
    decide

theorem year?_minus (text : List Char) :
    year? ('-' :: text) =
      (digits? text.length text).map fun (year, left) => (-(year : Int), left) := by
  rw [year?, dropWhile_isSpace (by decide)]
  rfl

theorem year?_plus (text : List Char) :
    year? ('+' :: text) =
      (digits? text.length text).map fun (year, left) => ((year : Int), left) := by
  rw [year?, dropWhile_isSpace (by decide)]
  rfl

theorem year?_digit {first : Char} (h : first.isDigit = true) (others : List Char) :
    year? (first :: others) =
      (digits? 4 (first :: others)).map fun (year, left) => ((year : Int), left) := by
  rw [year?, dropWhile_isSpace (isSpace_of_isDigit h)]
  split
  · next heq =>
    obtain rfl : first = '-' := (List.cons.inj heq).1
    exact absurd h (by decide)
  · next heq =>
    obtain rfl : first = '+' := (List.cons.inj heq).1
    exact absurd h (by decide)
  · rfl

theorem year?_yearText (year : Int) (rest : List Char) :
    year? ((yearText year).toList ++ '-' :: rest) = some (year, '-' :: rest) := by
  by_cases hplain : 0 ≤ year ∧ year ≤ 9999
  · have hspelling := spelling_padded 4 year.toNat
    have hlength : (padded 4 year.toNat).toList.length = 4 := length_padded (by decide) (by omega)
    have hread : digits? 4 ((padded 4 year.toNat).toList ++ '-' :: rest) = _ :=
      digits?_of_spelling hspelling hlength.le (.inl hlength)
    obtain ⟨first, others, hcons, hdigit⟩ := hspelling.exists_cons
    rw [yearText, if_pos hplain, hcons, List.cons_append, year?_digit hdigit]
    rw [hcons, List.cons_append] at hread
    rw [hread, Option.map_some]
    show some ((year.toNat : Int), _) = _
    rw [Int.toNat_of_nonneg hplain.1]
  · have hread := digits?_padded_mark year.natAbs rest
    rw [yearText, if_neg hplain, String.toList_append, List.append_assoc]
    by_cases hnegative : year < 0
    · have hsign : ("-" : String).toList = ['-'] := rfl
      have hvalue : -(year.natAbs : Int) = year := by omega
      rw [if_pos hnegative, hsign, List.singleton_append, year?_minus, hread, Option.map_some]
      show some (-(year.natAbs : Int), _) = _
      rw [hvalue]
    · have hsign : ("+" : String).toList = ['+'] := rfl
      have hvalue : (year.natAbs : Int) = year := by omega
      rw [if_neg hnegative, hsign, List.singleton_append, year?_plus, hread, Option.map_some]
      show some ((year.natAbs : Int), _) = _
      rw [hvalue]

theorem toList_toIso (moment : Moment) :
    moment.toIso.toList = (yearText moment.date.year).toList ++ '-' ::
      ((padded 2 moment.date.month).toList ++ '-' :: ((padded 2 moment.date.day).toList ++ 'T' ::
        ((padded 2 moment.hour).toList ++ ':' :: ((padded 2 moment.minute).toList ++ ':' ::
          ((padded 2 moment.second).toList ++ ['Z']))))) := by
  simp [toIso]

theorem mark?_self (mark : Char) (rest : List Char) : mark? mark (mark :: rest) = some rest := by
  simp [mark?]

/-! ### Moments -/

theorem isValid_iff {moment : Moment} :
    moment.isValid = true ↔ moment.date.isValid = true ∧ moment.hour ≤ 23 ∧ moment.minute ≤ 59 ∧
      moment.second ≤ 60 := by
  simp [isValid, and_assoc]

theorem fields_of_isValid {moment : Moment} (h : moment.isValid = true) :
    moment.date.month < 100 ∧ moment.date.day < 100 ∧ moment.hour < 100 ∧ moment.minute < 100 ∧
      moment.second < 100 := by
  have hlength := Date.monthLength_le moment.date.year moment.date.month
  obtain ⟨hdate, hhour, hminute, hsecond⟩ := isValid_iff.1 h
  simp only [Date.isValid, Bool.and_eq_true, decide_eq_true_eq] at hdate
  omega

theorem ofIso?_toIso {moment : Moment} (h : moment.isValid = true) :
    ofIso? moment.toIso = some moment := by
  obtain ⟨hmonth, hday, hhour, hminute, hsecond⟩ := fields_of_isValid h
  rw [ofIso?, toList_toIso, year?_yearText]
  simp only [Option.bind_eq_bind, Option.bind_some, mark?_self, field?_padded hmonth,
    field?_padded hday, field?_padded hhour, field?_padded hminute, field?_padded hsecond]
  simp [h]

theorem isValid_of_ofIso? {text : String} {moment : Moment} (h : ofIso? text = some moment) :
    moment.isValid = true := by
  simp only [ofIso?, Option.bind_eq_bind, Option.bind_eq_some_iff] at h
  obtain ⟨_, -, _, -, _, -, _, -, _, -, _, -, _, -, _, -, _, -, _, -, _, -, _, -, h⟩ := h
  split at h
  · next hvalid =>
    cases h
    exact (Bool.and_eq_true_iff.1 hvalid).2
  · cases h

/-! ### Instants -/

theorem isValid_ofInstant {instant : Int} (h : inRange instant = true) :
    (ofInstant instant).isValid = true := by
  obtain ⟨hfirst, hlast⟩ : firstInstant ≤ instant ∧ instant ≤ lastInstant := by
    simpa [inRange] using h
  simp only [firstInstant, lastInstant] at hfirst hlast
  rw [isValid_iff]
  refine ⟨Date.isValid_ofDays (by omega) (by omega), ?_, ?_, ?_⟩
  all_goals
    simp only [ofInstant]
    omega

theorem toInstant_ofInstant (instant : Int) :
    (ofInstant instant).toInstant = instant / 1000 * 1000 := by
  simp only [toInstant, ofInstant, Date.toDays_ofDays]
  omega

theorem ofInstant_toInstant {moment : Moment} (h : moment.isValid = true)
    (hsecond : moment.second < 60) : ofInstant moment.toInstant = moment := by
  obtain ⟨hdate, hhour, hminute, -⟩ := isValid_iff.1 h
  obtain ⟨date, hour, minute, second⟩ := moment
  dsimp only at *
  have hseconds : toInstant ⟨date, hour, minute, second⟩ / 1000 =
      date.toDays * 86400 + (hour * 3600 + minute * 60 + second : Nat) := by
    simp only [toInstant]
    omega
  have hdays : toInstant ⟨date, hour, minute, second⟩ / 1000 / 86400 = date.toDays := by omega
  have hrest : (toInstant ⟨date, hour, minute, second⟩ / 1000 % 86400).toNat =
      hour * 3600 + minute * 60 + second := by omega
  simp only [ofInstant, hdays, hrest, Date.ofDays_toDays hdate, mk.injEq, true_and]
  omega

end Fixture.Moment

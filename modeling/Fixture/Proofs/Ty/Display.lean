import Fixture.Proofs.Ty.Parsed
import Mathlib.Data.List.Basic
import Mathlib.Data.List.TakeWhile

/-!
# What the spelling of a type tells

Types are spelled with simple names, so the modules of their names are lost. Nothing else is, as
long as the simple names can be told from the brackets and commas around them: types with the same
spelling are the same up to the modules of their names.
-/

namespace Fixture

namespace Name

/-- What stands around names in the spelling of a type. -/
def Framing (c : Char) : Prop := c = '<' ∨ c = '>' ∨ c = ','

instance : DecidablePred Framing := fun c =>
  inferInstanceAs (Decidable (c = '<' ∨ c = '>' ∨ c = ','))

/-- A name whose simple name stands out in the spelling of a type. -/
structure Plain (name : String) : Prop where
  ne_empty : simple name ≠ ""
  not_framing : ∀ c ∈ (simple name).toList, ¬ Framing c

theorem plain_iff (name : String) :
    Plain name ↔
      simple name ≠ "" ∧ (simple name).toList.all (fun c => !decide (Framing c)) = true := by
  constructor
  · intro h
    exact ⟨h.ne_empty, by simpa using h.not_framing⟩
  · rintro ⟨hempty, hframing⟩
    exact ⟨hempty, by simpa using hframing⟩

instance : DecidablePred Plain := fun name => decidable_of_iff _ (plain_iff name).symm

theorem isDotted_simple (name : String) : isDotted (simple name) = false := by
  rw [isDotted, simple, String.toList_ofList, ← Bool.not_eq_true, List.contains_iff_mem]
  intro hdot
  have hend := List.all_eq_true.1 List.all_takeWhile '.' (List.mem_reverse.1 hdot)
  simp at hend

theorem simple_of_not_dotted {name : String} (h : isDotted name = false) : simple name = name := by
  have hdots : ∀ c ∈ name.toList.reverse, (c != '.') = true := by
    intro c hc
    rw [bne_iff_ne]
    rintro rfl
    rw [isDotted, List.contains_iff_mem.2 (List.mem_reverse.1 hc)] at h
    cases h
  rw [simple, List.takeWhile_eq_self_iff.2 hdots, List.reverse_reverse, String.ofList_toList]

theorem simple_simple (name : String) : simple (simple name) = simple name :=
  simple_of_not_dotted (isDotted_simple name)

theorem simple_qualify (module name : String) : simple (qualify module name) = simple name := by
  rw [qualify]
  split
  · rfl
  · have hreverse : (module ++ "." ++ name).toList.reverse =
        name.toList.reverse ++ '.' :: module.toList.reverse := by
      simp
    rw [simple, hreverse, List.takeWhile_append]
    split
    · next hlength =>
      have hwhole : name.toList.reverse.takeWhile (· != '.') = name.toList.reverse :=
        (List.takeWhile_prefix _).eq_of_length hlength
      rw [simple, hwhole]
      simp
    · rfl

theorem Plain.qualify {name : String} (h : Plain name) (module : String) :
    Plain (qualify module name) := by
  constructor
  · rw [simple_qualify]
    exact h.ne_empty
  · rw [simple_qualify]
    exact h.not_framing

end Name

namespace Ty

/-- The names in a type stand out in its spelling. -/
def Rules.plain : Rules where
  named := Name.Plain
  applied raw _ := Name.Plain raw
  named_qualify module _ h := h.qualify module
  applied_qualify module _ _ h := h.qualify module

/-- A type without parameters whose names stand out in its spelling. -/
abbrev Plain (ty : Ty) : Prop := ty.Follows .plain False

/-! ### The names in texts -/

namespace Parser

theorem letters_of_name {text : List Char} {raw : String}
    {rest : { rest : List Char // rest.length < text.length }} (h : name text = .ok (raw, rest)) :
    raw.toList ≠ [] ∧ wellDotted raw.toList = true ∧
      ∀ c ∈ raw.toList, isNameStart c = true ∨ isNamePart c = true := by
  obtain ⟨first, others, -, hstart, hdotted, rfl, -⟩ := names_iff.1 ⟨rest, h, rfl⟩
  refine ⟨by simp, by simpa using hdotted, fun c hc => ?_⟩
  rw [String.toList_ofList] at hc
  rcases List.mem_cons.1 hc with rfl | hmem
  · exact .inl hstart
  · exact .inr (List.all_eq_true.1 List.all_takeWhile c hmem)

theorem getLast_ne_dot {letters : List Char} (hletters : letters ≠ [])
    (h : wellDotted letters = true) : letters.getLast hletters ≠ '.' := by
  fun_induction wellDotted letters with
  | case1 => exact absurd rfl hletters
  | case2 => cases h
  | case3 => cases h
  | case4 first rest hone htwo ih =>
    cases rest with
    | nil => simpa using hone
    | cons next rest =>
      rw [List.getLast_cons (List.cons_ne_nil _ _)]
      exact ih (List.cons_ne_nil _ _) h

theorem not_framing {c : Char} (h : isNameStart c = true ∨ isNamePart c = true) :
    ¬ Name.Framing c := by
  rintro (rfl | rfl | rfl) <;> exact absurd h (by decide)

theorem plain_of_name {text : List Char} {raw : String}
    {rest : { rest : List Char // rest.length < text.length }} (h : name text = .ok (raw, rest)) :
    Name.Plain raw := by
  obtain ⟨hletters, hdotted, hparts⟩ := letters_of_name h
  have hlast := getLast_ne_dot hletters hdotted
  have hreverse : raw.toList.reverse =
      raw.toList.getLast hletters :: raw.toList.dropLast.reverse := by
    rw [← List.reverse_concat, List.dropLast_append_getLast]
  constructor
  · intro hempty
    have hnone := congrArg String.toList hempty
    rw [Name.simple, hreverse, List.takeWhile_cons_of_pos (by simpa using hlast)] at hnone
    simp at hnone
  · intro c hc
    rw [Name.simple, String.toList_ofList, List.mem_reverse] at hc
    exact not_framing (hparts c (List.mem_reverse.1 ((List.takeWhile_prefix _).subset hc)))

end Parser

theorem Rules.textual_plain : plain.Textual := fun _ _ _ h =>
  ⟨Parser.plain_of_name h, fun _ => Parser.plain_of_name h⟩

/-! ### From spellings back to types -/

theorem append_inj_of_ends {ends : Char → Prop} {first second rest other : List Char}
    (hfirst : ∀ c ∈ first, ¬ ends c) (hsecond : ∀ c ∈ second, ¬ ends c)
    (hrest : ∀ c ∈ rest.head?, ends c) (hother : ∀ c ∈ other.head?, ends c)
    (h : first ++ rest = second ++ other) : first = second ∧ rest = other := by
  induction first generalizing second with
  | nil =>
    cases second with
    | nil => exact ⟨rfl, h⟩
    | cons c second =>
      have hhead : rest = c :: (second ++ other) := h
      exact absurd (hrest c (by simp [hhead])) (hsecond c (List.mem_cons_self ..))
  | cons c first ih =>
    cases second with
    | nil =>
      have hhead : other = c :: (first ++ rest) := h.symm
      exact absurd (hother c (by simp [hhead])) (hfirst c (List.mem_cons_self ..))
    | cons d second =>
      obtain ⟨rfl, htail⟩ := List.cons.inj h
      obtain ⟨rfl, hrests⟩ := ih (fun e he => hfirst e (List.mem_cons_of_mem _ he))
        (fun e he => hsecond e (List.mem_cons_of_mem _ he)) htail
      exact ⟨rfl, hrests⟩

/-- Before this a name in a spelling has come to its end. -/
def Framed (rest : List Char) : Prop := ∀ c ∈ rest.head?, Name.Framing c

/-- Before this a type in a spelling has come to its end. -/
def Closed (rest : List Char) : Prop := ∀ c ∈ rest.head?, c = ',' ∨ c = '>'

theorem Closed.framed {rest : List Char} (h : Closed rest) : Framed rest :=
  fun c hc => .inr (h c hc).symm

theorem simple_inj_of_framed {name second : String} (hname : Name.Plain name)
    (hsecond : Name.Plain second) {rest other : List Char} (hrest : Framed rest)
    (hother : Framed other)
    (h : (Name.simple name).toList ++ rest = (Name.simple second).toList ++ other) :
    Name.simple name = Name.simple second ∧ rest = other := by
  obtain ⟨heq, hrests⟩ :=
    append_inj_of_ends hname.not_framing hsecond.not_framing hrest hother h
  exact ⟨String.toList_inj.1 heq, hrests⟩

/-- The spelling of a type, read up to where the type comes to its end, tells the type apart from
the modules in it. -/
def Readable (ty : Ty) : Prop :=
  ∀ ⦃other : Ty⦄, other.Plain → ∀ ⦃rest others : List Char⦄, Closed rest → Closed others →
    ty.display.toList ++ rest = other.display.toList ++ others →
      ty.mapNames Name.simple = other.mapNames Name.simple ∧ rest = others

/-- The spelling of the arguments of a type, up to the bracket behind them. -/
def argumentText (args : List Ty) (rest : List Char) : List Char :=
  (", ".intercalate (args.map display)).toList ++ '>' :: rest

theorem argumentText_nil (rest : List Char) : argumentText [] rest = '>' :: rest := by
  simp [argumentText]

theorem argumentText_singleton (arg : Ty) (rest : List Char) :
    argumentText [arg] rest = arg.display.toList ++ '>' :: rest := by
  simp [argumentText]

theorem argumentText_cons_cons (arg next : Ty) (args : List Ty) (rest : List Char) :
    argumentText (arg :: next :: args) rest =
      arg.display.toList ++ ',' :: ' ' :: argumentText (next :: args) rest := by
  simp [argumentText]

theorem Plain.display_eq_cons {ty : Ty} (h : ty.Plain) :
    ∃ c text, ty.display.toList = c :: text ∧ ¬ Name.Framing c := by
  have hname : ∀ {name : String}, Name.Plain name →
      ∃ c text, (Name.simple name).toList = c :: text ∧ ¬ Name.Framing c := by
    intro name hname
    cases htext : (Name.simple name).toList with
    | nil => exact absurd (String.toList_eq_nil_iff.1 htext) hname.ne_empty
    | cons c text => exact ⟨c, text, rfl, hname.not_framing c (by simp [htext])⟩
  cases h with
  | named h => exact hname h
  | param h => exact h.elim
  | applied hraw _ =>
    obtain ⟨c, text, htext, hc⟩ := hname hraw
    rw [display, String.append_assoc, String.append_assoc, String.toList_append, htext]
    exact ⟨c, _, rfl, hc⟩

theorem argumentText_cons (arg : Ty) (args : List Ty) (rest : List Char) :
    ∃ tail, argumentText (arg :: args) rest = arg.display.toList ++ tail := by
  cases args with
  | nil => exact ⟨_, argumentText_singleton arg rest⟩
  | cons next args => exact ⟨_, argumentText_cons_cons arg next args rest⟩

theorem argumentText_nil_ne {arg : Ty} (harg : arg.Plain) (args : List Ty)
    (rest remaining : List Char) : argumentText [] rest ≠ argumentText (arg :: args) remaining := by
  intro h
  obtain ⟨tail, htail⟩ := argumentText_cons arg args remaining
  obtain ⟨c, text, htext, hc⟩ := harg.display_eq_cons
  rw [argumentText_nil, htail, htext] at h
  exact hc (.inr (.inl (List.cons.inj h).1.symm))

theorem closed_cons {c : Char} (h : c = ',' ∨ c = '>') (rest : List Char) : Closed (c :: rest) := by
  simpa [Closed] using h

theorem arguments_inj {args others : List Ty} (hargs : ∀ arg ∈ args, arg.Plain ∧ Readable arg)
    (hothers : ∀ other ∈ others, other.Plain) {rest remaining : List Char}
    (h : argumentText args rest = argumentText others remaining) :
    args.map (mapNames Name.simple) = others.map (mapNames Name.simple) ∧ rest = remaining := by
  induction args generalizing others with
  | nil =>
    cases others with
    | nil =>
      rw [argumentText_nil, argumentText_nil] at h
      exact ⟨rfl, (List.cons.inj h).2⟩
    | cons other others =>
      exact absurd h (argumentText_nil_ne (hothers other (List.mem_cons_self ..)) _ _ _)
  | cons arg args ih =>
    obtain ⟨hplain, hreadable⟩ := hargs arg (List.mem_cons_self ..)
    cases others with
    | nil => exact absurd h.symm (argumentText_nil_ne hplain _ _ _)
    | cons other others =>
      have hother := hothers other (List.mem_cons_self ..)
      -- A comma behind the first argument says that there is another one, a bracket that not.
      cases args with
      | nil =>
        rw [argumentText_singleton] at h
        cases others with
        | nil =>
          rw [argumentText_singleton] at h
          obtain ⟨hsame, htail⟩ := hreadable hother (closed_cons (.inr rfl) _)
            (closed_cons (.inr rfl) _) h
          exact ⟨by rw [List.map_singleton, List.map_singleton, hsame], (List.cons.inj htail).2⟩
        | cons next others =>
          rw [argumentText_cons_cons] at h
          obtain ⟨-, htail⟩ := hreadable hother (closed_cons (.inr rfl) _)
            (closed_cons (.inl rfl) _) h
          exact absurd (List.cons.inj htail).1 (by decide)
      | cons next args =>
        rw [argumentText_cons_cons] at h
        cases others with
        | nil =>
          rw [argumentText_singleton] at h
          obtain ⟨-, htail⟩ := hreadable hother (closed_cons (.inl rfl) _)
            (closed_cons (.inr rfl) _) h
          exact absurd (List.cons.inj htail).1 (by decide)
        | cons second others =>
          rw [argumentText_cons_cons] at h
          obtain ⟨hsame, htail⟩ := hreadable hother (closed_cons (.inl rfl) _)
            (closed_cons (.inl rfl) _) h
          obtain ⟨hargs, hrest⟩ := ih (fun arg harg => hargs arg (List.mem_cons_of_mem _ harg))
            (fun other hother => hothers other (List.mem_cons_of_mem _ hother))
            (List.cons.inj (List.cons.inj htail).2).2
          refine ⟨?_, hrest⟩
          rw [List.map_cons, hsame, hargs]
          rfl

theorem display_applied (raw : String) (args : List Ty) (rest : List Char) :
    (applied raw args).display.toList ++ rest =
      (Name.simple raw).toList ++ '<' :: argumentText args rest := by
  simp [display, argumentText, displayAll_eq_map]

/-- Every plain type can be read back from its spelling, up to the modules of its names. -/
theorem Plain.readable {ty : Ty} (h : ty.Plain) : Readable ty := by
  have hopen : ∀ rest, Framed ('<' :: rest) := fun rest => by simp [Framed, Name.Framing]
  induction h with
  | param h => exact h.elim
  | @named name hname =>
    intro other hother rest remaining hrest hremaining h
    cases hother with
    | param hnone => exact hnone.elim
    | named hother =>
      obtain ⟨hsame, htail⟩ :=
        simple_inj_of_framed hname hother hrest.framed hremaining.framed h
      exact ⟨congrArg named hsame, htail⟩
    | applied hraw _ =>
      rw [display_applied] at h
      obtain ⟨-, rfl⟩ := simple_inj_of_framed hname hraw hrest.framed (hopen _) h
      exact absurd (hrest '<' rfl) (by decide)
  | @applied raw args hraw hargs ih =>
    intro other hother rest remaining hrest hremaining h
    rw [display_applied] at h
    cases hother with
    | param hnone => exact hnone.elim
    | named hother =>
      obtain ⟨-, htail⟩ := simple_inj_of_framed hraw hother (hopen _) hremaining.framed h
      exact absurd (hremaining '<' (by simp [← htail])) (by decide)
    | @applied second others hsecond hothers =>
      rw [display_applied] at h
      obtain ⟨hsame, htail⟩ := simple_inj_of_framed hraw hsecond (hopen _) (hopen _) h
      obtain ⟨hall, hrests⟩ := arguments_inj (fun arg harg => ⟨hargs arg harg, ih arg harg⟩)
        hothers (List.cons.inj htail).2
      refine ⟨?_, hrests⟩
      rw [mapNames, mapNames, mapNamesAll_eq_map, mapNamesAll_eq_map, hsame, hall]

theorem displayArgs_of_ne_nil {args : List Ty} (hargs : args ≠ []) :
    (displayArgs args).toList = '<' :: argumentText args [] := by
  simp [displayArgs, argumentText, hargs]

theorem displayArgs_inj {args others : List Ty} (hargs : ∀ arg ∈ args, arg.Plain)
    (hothers : ∀ other ∈ others, other.Plain) (h : displayArgs args = displayArgs others) :
    args.map (mapNames Name.simple) = others.map (mapNames Name.simple) := by
  by_cases hnone : args = []
  · by_cases hother : others = []
    · rw [hnone, hother]
    · have hempty := congrArg String.toList h
      rw [displayArgs_of_ne_nil hother, hnone] at hempty
      exact absurd hempty (by simp [displayArgs])
  · by_cases hother : others = []
    · have hempty := congrArg String.toList h
      rw [displayArgs_of_ne_nil hnone, hother] at hempty
      exact absurd hempty (by simp [displayArgs])
    · have hsame := congrArg String.toList h
      rw [displayArgs_of_ne_nil hnone, displayArgs_of_ne_nil hother] at hsame
      exact (arguments_inj (fun arg harg => ⟨hargs arg harg, (hargs arg harg).readable⟩) hothers
        (List.cons.inj hsame).2).1

end Ty

end Fixture

import Fixture.Proofs.Ty.Grammar

/-!
# Types written out

The text for a type spells its names in full. It does not tell parameters from names; that is told
by the parameters which the type's owner declares, as long as no plain name is one of them. So a
type is known from its text and those parameters, if all its names can be read and every name with
brackets has an argument.
-/

namespace Fixture.Ty

open Grammar

mutual

/-- The spelling with full names, with the same white space behind all commas. -/
def written (space : Gap) : Ty → String
  | named name => name
  | param name => name
  | applied raw args =>
    raw ++ "<" ++ ("," ++ String.ofList space.letters).intercalate (writtenAll space args) ++ ">"

def writtenAll (space : Gap) : List Ty → List String
  | [] => []
  | ty :: rest => written space ty :: writtenAll space rest

end

mutual

/-- The type with its parameters as plain names. -/
def unbound : Ty → Ty
  | named name => named name
  | param name => named name
  | applied raw args => applied raw (unboundAll args)

def unboundAll : List Ty → List Ty
  | [] => []
  | ty :: rest => unbound ty :: unboundAll rest

end

theorem writtenAll_eq_map (space : Gap) (args : List Ty) :
    writtenAll space args = args.map (written space) := by
  induction args with
  | nil => rfl
  | cons ty rest ih => simp [writtenAll, ih]

theorem unboundAll_eq_map (args : List Ty) : unboundAll args = args.map unbound := by
  induction args with
  | nil => rfl
  | cons ty rest ih => simp [unboundAll, ih]

/-- A name that stands for itself in a text. -/
def Identifier (name : String) : Prop := ∃ ident : Ident, ident.name = name

/-- Whether a name can be read is seen from its characters. -/
def isIdentifier (name : String) : Bool :=
  match name.toList with
  | [] => false
  | first :: others =>
    isNameStart first && others.all isNamePart && wellDotted (first :: others)

theorem isIdentifier_iff (name : String) : isIdentifier name = true ↔ Identifier name := by
  rw [isIdentifier]
  constructor
  · intro h
    split at h
    · cases h
    · next first others hletters =>
      simp only [Bool.and_eq_true, List.all_eq_true] at h
      obtain ⟨⟨hstart, hparts⟩, hdotted⟩ := h
      obtain ⟨hlast, hdouble⟩ := (wellDotted_iff _).1 hdotted
      refine ⟨⟨first, others, hstart, hparts, hlast, hdouble⟩, String.toList_inj.1 ?_⟩
      simp [Ident.name, Ident.letters, hletters]
  · rintro ⟨ident, rfl⟩
    have hdotted := (wellDotted_iff ident.letters).2 ⟨ident.no_last_dot, ident.no_double_dot⟩
    have hparts := List.all_eq_true.2 ident.parts
    rw [Ident.letters] at hdotted
    simp [Ident.name, Ident.letters, ident.start, hparts, hdotted]

instance (name : String) : Decidable (Identifier name) :=
  decidable_of_iff _ (isIdentifier_iff name)

def noGap : Gap where
  letters := []
  blank := by simp

/-- A type that can be told from its text where these parameters are declared. -/
inductive Writable (params : List String) : Ty → Prop
  | named {name : String} (hname : Identifier name) (hplain : name ∉ params) :
      Writable params (.named name)
  | param {name : String} (hname : Identifier name) (hdeclared : name ∈ params) :
      Writable params (.param name)
  | applied {raw : String} {args : List Ty} (hraw : Identifier raw) (hsome : args ≠ [])
      (hargs : ∀ arg ∈ args, Writable params arg) : Writable params (.applied raw args)

variable {params : List String} {ty : Ty} {space : Gap}

theorem Writable.bindParams_unbound (h : ty.Writable params) :
    ty.unbound.bindParams params = ty := by
  induction h with
  | named _ hplain => rw [unbound, bindParams, if_neg (mt List.contains_iff_mem.1 hplain)]
  | param _ hdeclared => rw [unbound, bindParams, if_pos (List.contains_iff_mem.2 hdeclared)]
  | @applied raw args _ _ _ ih =>
    have hargs : args.map (fun arg => arg.unbound.bindParams params) = args := by
      rw [List.map_congr_left ih, List.map_id']
    rw [unbound, bindParams, bindParamsAll_eq_map, unboundAll_eq_map, List.map_map]
    exact congrArg (Ty.applied raw) hargs

/-! ### From types to derivations -/

/-- The spelling of arguments, with the brackets left away. -/
def argumentsText (space : Gap) (args : List Ty) : List Char :=
  (("," ++ String.ofList space.letters).intercalate (args.map (written space))).toList

theorem argumentsText_singleton (arg : Ty) :
    argumentsText space [arg] = (arg.written space).toList := by
  simp [argumentsText]

theorem argumentsText_cons_cons (arg next : Ty) (args : List Ty) :
    argumentsText space (arg :: next :: args) =
      (arg.written space).toList ++
        ',' :: (space.letters ++ argumentsText space (next :: args)) := by
  simp [argumentsText]

theorem written_applied (raw : String) (args : List Ty) :
    ((applied raw args).written space).toList =
      raw.toList ++ '<' :: (argumentsText space args ++ ['>']) := by
  simp [written, argumentsText, writtenAll_eq_map]

/-- Behind any white space, what is written for the type is the text of a derivation. -/
def Derivable (space : Gap) (ty : Ty) : Prop :=
  ∀ before : Gap, ∃ expression : Expression,
    expression.text = before.letters ++ (ty.written space).toList ∧ expression.ty = ty.unbound

theorem exists_arguments {args : List Ty} (hsome : args ≠ [])
    (hargs : ∀ arg ∈ args, Derivable space arg) (before : Gap) :
    ∃ (first : Expression) (others : Others),
      first.text ++ others.text = before.letters ++ argumentsText space args ∧
        first.ty :: others.types = args.map unbound := by
  induction args generalizing before with
  | nil => exact absurd rfl hsome
  | cons arg rest ih =>
    obtain ⟨harg, hrest⟩ := List.forall_mem_cons.1 hargs
    obtain ⟨first, htext, hty⟩ := harg before
    cases rest with
    | nil =>
      refine ⟨first, .nothing, ?_, ?_⟩
      · rw [Others.text, List.append_nil, htext, argumentsText_singleton]
      · rw [Others.types, hty, List.map_singleton]
    | cons next more =>
      obtain ⟨second, others, hothers, htypes⟩ := ih (List.cons_ne_nil _ _) hrest space
      refine ⟨first, .next noGap second others, ?_, ?_⟩
      · rw [Others.text, hothers, htext, argumentsText_cons_cons, List.append_assoc]
        rfl
      · rw [Others.types, hty, htypes]
        rfl

theorem Writable.derivable (h : ty.Writable params) (space : Gap) : Derivable space ty := by
  induction h with
  | named hname _ | param hname _ =>
    intro before
    obtain ⟨ident, rfl⟩ := hname
    exact ⟨.plain before ident, by simp [Expression.text, written, Ident.name], rfl⟩
  | @applied raw args hraw hsome _ ih =>
    intro before
    obtain ⟨ident, rfl⟩ := hraw
    obtain ⟨first, others, htext, htypes⟩ := exists_arguments hsome ih noGap
    refine ⟨.applied before ident noGap first others noGap, ?_, ?_⟩
    · rw [Expression.text, written_applied, htext]
      simp [noGap, Ident.name]
    · rw [Expression.ty, unbound, unboundAll_eq_map, htypes]

/-- What is written for a type is read as this type, with its parameters as plain names. -/
theorem Writable.parse_written (h : ty.Writable params) (space : Gap) :
    parse (ty.written space) = .ok ty.unbound := by
  obtain ⟨expression, htext, hty⟩ := h.derivable space noGap
  have hend : TypeEnds [] := typeEnds_trailing noGap
  have hread := reads_expression expression hend
  rw [List.append_nil, htext, hty] at hread
  exact parse_ok_iff.2 ⟨[], hread, rfl⟩

end Fixture.Ty

import Fixture.Proofs.Ty.Contents
import Fixture.Proofs.Ty.Written

/-!
# The spelling of a type as a type expression

Generated code spells a type with simple names, and this spelling is a text for a type again. It is
read as the type with its simple names, provided that each of them can be read on its own. The names
in a type from a text can be read as they were written; their last segments need not begin with a
character that may begin a name, and that is all that can be missing.
-/

namespace Fixture

namespace Name

/-- The last segment begins with a character that may begin a name. -/
def Leads (name : String) : Prop := ∀ c ∈ (simple name).toList.head?, Ty.isNameStart c = true

theorem leads_iff (name : String) :
    Leads name ↔ (simple name).toList.head?.all Ty.isNameStart = true := by
  rw [Leads, Option.all_eq_true]
  rfl

instance : DecidablePred Leads := fun name => decidable_of_iff _ (leads_iff name).symm

theorem simple_suffix (name : String) : (simple name).toList <:+ name.toList := by
  rw [simple, String.toList_ofList, ← List.reverse_prefix, List.reverse_reverse]
  exact List.takeWhile_prefix _

end Name

namespace Ty

open Grammar

/-! ### The last segment of a name -/

theorem Identifier.ne_empty {name : String} (h : Identifier name) : Name.simple name ≠ "" := by
  obtain ⟨ident, rfl⟩ := h
  have hend : NameEnds [] := (typeEnds_trailing noGap).nameEnds
  obtain ⟨_, hread, -⟩ := names_ident noGap ident hend
  exact (Parser.plain_of_name hread).ne_empty

theorem Identifier.parts {name : String} (h : Identifier name) :
    ∀ c ∈ name.toList, isNamePart c = true := by
  obtain ⟨ident, rfl⟩ := h
  rw [Ident.name, String.toList_ofList]
  exact ident.nameParts

theorem leads_of_identifier {name : String} (h : Identifier (Name.simple name)) :
    Name.Leads name := by
  obtain ⟨ident, hident⟩ := h
  intro c hc
  rw [← hident, Ident.name, String.toList_ofList] at hc
  cases hc
  exact ident.start

theorem Identifier.simple {name : String} (h : Identifier name) (hleads : Name.Leads name) :
    Identifier (Name.simple name) := by
  have hparts : ∀ c ∈ (Name.simple name).toList, isNamePart c = true := fun c hc =>
    h.parts c ((Name.simple_suffix name).subset hc)
  have hdot : '.' ∉ (Name.simple name).toList := by
    rw [← List.contains_iff_mem, Bool.not_eq_true]
    exact Name.isDotted_simple name
  cases hletters : (Name.simple name).toList with
  | nil => exact absurd (String.toList_eq_nil_iff.1 hletters) h.ne_empty
  | cons first others =>
    rw [hletters] at hparts hdot
    have hstart : isNameStart first = true := hleads first (by rw [hletters]; rfl)
    have hlast : ¬ ['.'] <:+ first :: others := fun hend =>
      hdot (hend.subset (List.mem_singleton_self _))
    have hdouble : ¬ ['.', '.'] <:+: first :: others := fun hinside =>
      hdot (hinside.subset (List.mem_cons_self ..))
    refine ⟨⟨first, others, hstart, (List.forall_mem_cons.1 hparts).2, hlast, hdouble⟩, ?_⟩
    rw [Ident.name, Ident.letters, ← hletters, String.ofList_toList]

/-! ### What is read has names that can be read -/

mutual

theorem Grammar.Expression.ground : ∀ expression : Expression, expression.ty.Ground Identifier
  | .plain _ ident => .named ⟨ident, rfl⟩
  | .applied _ ident _ first others _ =>
    .applied ⟨ident, rfl⟩ (List.forall_mem_cons.2 ⟨first.ground, others.ground⟩)

theorem Grammar.Others.ground : ∀ others : Others, ∀ arg ∈ others.types, arg.Ground Identifier
  | .nothing => List.forall_mem_nil _
  | .next _ argument rest => List.forall_mem_cons.2 ⟨argument.ground, rest.ground⟩

end

theorem ground_of_parse {text : String} {ty : Ty} (h : parse text = .ok ty) :
    ty.Ground Identifier := by
  obtain ⟨left, hread, -⟩ := parse_ok_iff.1 h
  obtain ⟨expression, -, rfl, -⟩ := exists_expression hread
  exact expression.ground

theorem Ground.of_mapNames {known : String → Prop} {spell : String → String} {ty : Ty}
    (h : (ty.mapNames spell).Ground known) : ty.Ground fun name => known (spell name) := by
  have hbuilt := ty.built
  induction hbuilt with
  | named =>
    rw [mapNames] at h
    cases h with
    | named hname => exact .named hname
  | param =>
    rw [mapNames] at h
    cases h with
    | param hnone => exact hnone.elim
  | @applied raw args _ _ ih =>
    rw [mapNames, mapNamesAll_eq_map] at h
    obtain ⟨hraw, hargs⟩ := h.args_of_applied
    exact .applied hraw fun arg harg => ih arg harg (hargs _ (List.mem_map_of_mem harg))

/-! ### The spelling is a written form -/

/-- One blank behind every comma. -/
def oneSpace : Gap where
  letters := [' ']
  blank := List.forall_mem_singleton.2 (by decide)

theorem ParamFree.written_simple {ty : Ty} (h : ty.ParamFree) :
    (ty.mapNames Name.simple).written oneSpace = ty.display := by
  induction h with
  | named => rfl
  | param hnone => exact hnone.elim
  | @applied raw args _ _ ih =>
    have hargs : (args.map (mapNames Name.simple)).map (written oneSpace) = args.map display := by
      rw [List.map_map]
      exact List.map_congr_left ih
    rw [mapNames, written, display, mapNamesAll_eq_map, writtenAll_eq_map, displayAll_eq_map, hargs]
    rfl

theorem ParamFree.unbound {ty : Ty} (h : ty.ParamFree) : ty.unbound = ty := by
  induction h with
  | named => rfl
  | param hnone => exact hnone.elim
  | @applied raw args _ _ ih =>
    have hargs : args.map Ty.unbound = args := by
      rw [List.map_congr_left ih, List.map_id']
    rw [Ty.unbound, unboundAll_eq_map, hargs]

theorem display_simple (ty : Ty) : (ty.mapNames Name.simple).display = ty.display := by
  have hbuilt := ty.built
  induction hbuilt with
  | named => rw [mapNames, display, display, Name.simple_simple]
  | param => rfl
  | @applied raw args _ _ ih =>
    have hargs : (args.map (mapNames Name.simple)).map display = args.map display := by
      rw [List.map_map]
      exact List.map_congr_left ih
    rw [mapNames, display, display, mapNamesAll_eq_map, displayAll_eq_map, displayAll_eq_map, hargs,
      Name.simple_simple]

theorem Follows.writable {spell : String → String} {ty : Ty} (h : ty.Follows .proper False)
    (hnames : ty.Ground fun name => Identifier (spell name)) :
    (ty.mapNames spell).Writable [] := by
  induction h with
  | named =>
    cases hnames with
    | named hname => exact .named hname List.not_mem_nil
  | param hnone => exact hnone.elim
  | @applied raw args hraw _ ih =>
    obtain ⟨hname, hargs⟩ := hnames.args_of_applied
    rw [Ty.mapNames, mapNamesAll_eq_map]
    refine .applied hname ?_ (List.forall_mem_map.2 fun arg harg => ih arg harg (hargs arg harg))
    rw [Ne, List.map_eq_nil_iff, ← List.length_eq_zero_iff]
    exact hraw

/-- A type from a text is spelled as its simple names would be. The spelling is read as the type
with its simple names if and only if the last segment of every name in the type begins with a
character that may begin a name. -/
theorem parse_display {text : String} {ty : Ty} (h : parse text = .ok ty) :
    (ty.mapNames Name.simple).display = ty.display ∧
      (parse ty.display = .ok (ty.mapNames Name.simple) ↔ ty.Ground Name.Leads) := by
  have hproper : ty.Follows .proper False := follows_of_parse Rules.textual_proper h
  refine ⟨display_simple ty, fun hdisplay => ?_, fun hleads => ?_⟩
  · have hsimple := (ground_of_parse hdisplay).of_mapNames
    exact hsimple.imp (fun _ => leads_of_identifier) fun _ => id
  · have hnames := (ground_of_parse h).and hleads
    have hwritable : (ty.mapNames Name.simple).Writable [] :=
      hproper.writable (hnames.imp (fun _ hname => hname.1.simple hname.2) fun _ => id)
    have hfree : (ty.mapNames Name.simple).ParamFree :=
      (hproper.paramFree.imp (fun _ => id) fun _ => id).mapNames
    have hread := hwritable.parse_written oneSpace
    rwa [hproper.paramFree.written_simple, hfree.unbound] at hread

/-- In a name that can be read the last segment may begin with a numeral. Then the simple name that
stands for it in generated code cannot be read. -/
theorem parse_display_numeral :
    parse "a.1" = .ok (.named "a.1") ∧ (named "a.1").display = "1" ∧
      ∃ flaw, parse "1" = .error flaw := by
  have hwritable : (named "a.1").Writable [] := .named (by decide) List.not_mem_nil
  refine ⟨hwritable.parse_written noGap, by decide, ?_⟩
  have hread : (parse "1").toOption.isNone = true := by decide +kernel
  cases hparse : parse "1" with
  | error flaw => exact ⟨flaw, rfl⟩
  | ok ty =>
    rw [hparse] at hread
    cases hread

theorem parse_display_pair :
    parse "b.P<A>" = .ok (.applied "b.P" [.named "A"]) ∧
      parse "P<A>" = .ok (.applied "P" [.named "A"]) := by
  have hwritable : (applied "b.P" [named "A"]).Writable [] :=
    .applied (by decide) (List.cons_ne_nil _ _)
      (List.forall_mem_singleton.2 (.named (by decide) List.not_mem_nil))
  have hparse : parse "b.P<A>" = .ok (.applied "b.P" [.named "A"]) :=
    hwritable.parse_written noGap
  have hleads : (applied "b.P" [named "A"]).Ground Name.Leads :=
    .applied (by decide) (List.forall_mem_singleton.2 (.named (by decide)))
  exact ⟨hparse, (parse_display hparse).2.2 hleads⟩

end Ty

end Fixture

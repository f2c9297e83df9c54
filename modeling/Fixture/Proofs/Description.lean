import Fixture.Description
import Fixture.Proofs.Obstacle
import Fixture.Proofs.Plan
import Fixture.Proofs.Ty.Display
import Fixture.Proofs.Ty.Renamed
import Mathlib.Data.List.Forall2

/-!
# What a description shows

A description and a generation come by the types of properties on different ways: a generation reads
the names in a type from inside the module of its composite before it replaces the parameters, a
description does not. The spelling of the result is the same, since the qualified form of a name has
the simple name of the name itself, and neither way can fail where the other does not. Only where
there are no arguments is nothing replaced in a description, so that it shows a parameter for which
a generation has no type.
-/

namespace Fixture

theorem exists_of_mapM_map {α β γ ε : Type} {f : α → Except ε β} {use : α → β → γ}
    {sources : List α} {results : List γ}
    (h : (sources.mapM fun source => (f source).map (use source)) = .ok results) :
    ∃ values, List.Forall₂ (fun source value => f source = .ok value) sources values ∧
      results = List.zipWith use sources values := by
  induction sources generalizing results with
  | nil =>
    cases h
    exact ⟨[], .nil, rfl⟩
  | cons source rest ih =>
    obtain ⟨first, others, hfirst, hrest, rfl⟩ := mapM_cons_eq_ok h
    obtain ⟨value, hvalue, rfl⟩ := map_eq_ok hfirst
    obtain ⟨values, hvalues, rfl⟩ := ih hrest
    exact ⟨value :: values, .cons hvalue hvalues, rfl⟩

/-! ### Spellings -/

namespace Ty

/-- The arguments of an applied type; other types have none. -/
def arguments : Ty → List Ty
  | applied _ args => args
  | _ => []

theorem display_substitute_mapNames {ε : Type} {spell : String → String}
    (hspell : ∀ name, Name.simple (spell name) = Name.simple name) (value : String → Except ε Ty)
    (ty : Ty) :
    ((ty.mapNames spell).substitute value).map display = (ty.substitute value).map display := by
  have happlied : ∀ (raw : String) (result : Except ε (List Ty)),
      (result.map (applied raw)).map display =
        (result.map (List.map display)).map fun shown =>
          Name.simple raw ++ "<" ++ ", ".intercalate shown ++ ">" := by
    intro raw result
    cases result with
    | error failure => rfl
    | ok args => simp [Except.map, display, displayAll_eq_map]
  have hbuilt := ty.built
  induction hbuilt with
  | @named name => exact congrArg Except.ok (hspell name)
  | param => rfl
  | applied _ _ ih =>
    rw [mapNames, substitute, substitute, mapNamesAll_eq_map, substituteAll_eq_mapM,
      substituteAll_eq_mapM, happlied, happlied, hspell, List.mapM_map]
    exact congrArg _ (mapM_map_congr ih)

theorem eq_of_substitute {ε : Type} {value : String → Except ε Ty} {ty result : Ty}
    (hnone : ∀ name arg, value name ≠ .ok arg) (h : ty.substitute value = .ok result) :
    result = ty := by
  have hbuilt := ty.built
  induction hbuilt generalizing result with
  | named => exact (Except.ok.inj h).symm
  | param => exact absurd h (hnone _ _)
  | applied _ _ ih =>
    rw [substitute, substituteAll_eq_mapM] at h
    obtain ⟨results, hall, rfl⟩ := map_eq_ok h
    rw [eq_of_mapM hall fun source hsource result => ih source hsource]

end Ty

theorem Catalog.simple_qualifyName (catalog : Catalog) (module name : String) :
    Name.simple (catalog.qualifyName module name) = Name.simple name := by
  rw [qualifyName]
  split
  · exact Name.simple_qualify module name
  · rfl

theorem Plan.display_propertyType (plan : Plan) (owner : Composite) (args : List Ty)
    (property : Property) :
    (plan.propertyType owner args property).map Ty.display =
      (Binding.substitute ⟨owner, args⟩ property.ty).map Ty.display :=
  Ty.display_substitute_mapNames (plan.catalog.simple_qualifyName owner.module) _ property.ty

/-! ### Descriptions of composites -/

namespace Composite

variable {owner : Composite} {args : List Ty} {text : String}

/-- The arguments are neither left out nor as many as the composite declares parameters. -/
def Miscounts (owner : Composite) (args : List Ty) : Prop :=
  args ≠ [] ∧ args.length ≠ owner.params.length

theorem description_of_miscounts (h : owner.Miscounts args) :
    owner.description args =
      .error (.malformedGeneric (.describedCount owner.qualifiedName owner.params.length)) := by
  have hcount : (!args.isEmpty && args.length != owner.params.length) = true := by
    simpa [Miscounts] using h
  rw [description, if_pos hcount]
  rfl

theorem description_of_counts (h : ¬ owner.Miscounts args) :
    owner.description args =
      (owner.properties.mapM fun property =>
        (owner.shownType args property).map property.line).map fun lines =>
          owner.header args ++ "\n" ++ String.join lines := by
  have hcount : ¬ (!args.isEmpty && args.length != owner.params.length) = true := by
    simpa [Miscounts] using h
  have hline : (fun property : Property => do
      return property.line (← owner.shownType args property)) =
        fun property => (owner.shownType args property).map property.line := by
    funext property
    cases owner.shownType args property <;> rfl
  rw [description, if_neg hcount, hline]
  cases owner.properties.mapM fun property =>
    (owner.shownType args property).map property.line <;> rfl

theorem unresolvableParam_of_shownType {property : Property} {obstacle : Obstacle}
    (h : owner.shownType args property = .error obstacle) :
    ∃ param, obstacle = .unresolvableParam owner.qualifiedName param := by
  rw [shownType] at h
  split at h
  · cases h
  · obtain ⟨param, -, hobstacle, -⟩ := Binding.substitute_error h
    exact ⟨param, hobstacle⟩

theorem malformed_description_iff :
    (∃ misuse, owner.description args = .error (.malformedGeneric misuse)) ↔
      owner.Miscounts args := by
  constructor
  · rintro ⟨misuse, hmisuse⟩
    by_contra hcounts
    rw [description_of_counts hcounts] at hmisuse
    obtain ⟨property, -, hproperty⟩ := exists_of_mapM_error (map_eq_error hmisuse)
    obtain ⟨param, hparam⟩ := unresolvableParam_of_shownType (map_eq_error hproperty)
    cases hparam
  · intro h
    exact ⟨_, description_of_miscounts h⟩

theorem header_eq_key (h : args = [] → owner.params = []) :
    owner.header args = Plan.key owner args := by
  cases args with
  | nil => simp [header, Plan.key, Ty.displayArgs, h rfl]
  | cons arg rest => simp [header, Plan.key, Ty.displayArgs, String.append_assoc]

end Composite

namespace Plan

variable {plan : Plan} {owner : Composite} {args : List Ty} {property : Property} {ty : Ty}

theorem malformed_enter_iff {name : String} {path : List String}
    (hcomposite : plan.composite name = .ok owner) :
    (∃ misuse, plan.enter name args path = .error (.malformedGeneric misuse)) ↔
      owner.Miscounts args := by
  have hcount : (!args.isEmpty && args.length != owner.params.length) = true ↔
      owner.Miscounts args := by
    simp [Composite.Miscounts]
  rw [enter, hcomposite]
  dsimp only
  rw [mayEnter]
  by_cases hmiscounts : owner.Miscounts args
  · rw [if_pos (hcount.2 hmiscounts)]
    simp [Except.map, hmiscounts]
  · rw [if_neg (mt hcount.1 hmiscounts)]
    split <;> simp [Except.map, hmiscounts]

/-- The type that is classified when the property gets its value in the composite with these
arguments. -/
structure Classifies (plan : Plan) (owner : Composite) (args : List Ty) (property : Property)
    (ty : Ty) : Prop where
  type : plan.propertyType owner args property = .ok ty
  shape : ∀ writer, property.writer = some writer →
    plan.writerAndShape owner args property =
      (Shape.ofTy plan.registry plan.catalog ty).map fun shape => (writer, shape)

theorem classifies_iff :
    plan.Classifies owner args property ty ↔ plan.propertyType owner args property = .ok ty := by
  refine ⟨fun h => h.type, fun h => ⟨h, fun writer hwriter => ?_⟩⟩
  rw [writerAndShape, hwriter]
  dsimp only
  rw [h]

/-- A description shows the type that is classified, or, without arguments, a declared type with a
parameter that the composite does not declare. -/
inductive Shows (plan : Plan) (owner : Composite) (args : List Ty) (property : Property) : Ty → Prop
  | classified {ty : Ty} (h : plan.Classifies owner args property ty) :
      Shows plan owner args property ty
  | declared {param : String} (hargs : args = []) (hparam : param ∈ property.ty.params)
      (hundeclared : param ∉ owner.params)
      (herror : plan.propertyType owner args property =
        .error (.unresolvableParam owner.qualifiedName param)) :
      Shows plan owner args property property.ty

theorem exists_shows (hbare : args = [] → owner.params = [])
    (h : owner.shownType args property = .ok ty) :
    ∃ shown, plan.Shows owner args property shown ∧ shown.display = ty.display := by
  have hdisplay := plan.display_propertyType owner args property
  rw [Composite.shownType] at h
  by_cases hargs : args = []
  · subst hargs
    obtain rfl : property.ty = ty := Except.ok.inj h
    cases htype : plan.propertyType owner [] property with
    | error obstacle =>
      obtain ⟨param, hparam, rfl, -⟩ := propertyType_error property.ty.built_params htype
      have hundeclared : param ∉ owner.params := by simp [hbare rfl]
      exact ⟨property.ty, .declared rfl hparam hundeclared htype, rfl⟩
    | ok classified =>
      -- Nothing was replaced, so there was nothing to be replaced.
      rw [htype] at hdisplay
      obtain ⟨replaced, hreplaced, hspelled⟩ := map_eq_ok hdisplay.symm
      have hnone : ∀ name arg, Binding.argument ⟨owner, []⟩ name ≠ .ok arg := by
        intro name arg
        cases hposition : owner.positionOf? name <;> simp [Binding.argument, hposition]
      obtain rfl := Ty.eq_of_substitute hnone hreplaced
      exact ⟨classified, .classified (classifies_iff.2 htype), hspelled.symm⟩
  · rw [if_neg (by simpa using hargs)] at h
    cases htype : plan.propertyType owner args property with
    | error obstacle =>
      rw [htype, h] at hdisplay
      cases hdisplay
    | ok classified =>
      rw [htype, h] at hdisplay
      exact ⟨classified, .classified (classifies_iff.2 htype), Except.ok.inj hdisplay⟩

theorem exists_shown (hbare : args = [] → owner.params = []) {properties : List Property}
    {types : List Ty}
    (h : List.Forall₂ (fun property ty => owner.shownType args property = .ok ty) properties types) :
    ∃ shown, List.Forall₂ (plan.Shows owner args) properties shown ∧
      List.zipWith Property.line properties types = List.zipWith Property.line properties shown := by
  induction h with
  | nil => exact ⟨[], .nil, rfl⟩
  | @cons property ty _ _ hfirst _ ih =>
    obtain ⟨first, hshows, hdisplay⟩ := plan.exists_shows hbare hfirst
    obtain ⟨rest, hrest, hzip⟩ := ih
    have hline : property.line ty = property.line first := by
      rw [Property.line, Property.line, hdisplay]
    exact ⟨first :: rest, .cons hshows hrest, by
      rw [List.zipWith_cons_cons, List.zipWith_cons_cons, hline, hzip]⟩

end Plan

theorem Catalog.description_composite {catalog : Catalog} {ty : Ty} {owner : Composite}
    (h : catalog.lookup ty.rawName = .ok (some (.composite owner))) :
    catalog.description ty = owner.description ty.arguments := by
  cases ty <;> simp only [description, h, Ty.arguments]

/-- A composite that a name stands for is described as it would be constructed with the arguments
of the type, where arguments are left out only if the composite declares no parameters. The
description is refused for the number of the arguments exactly where the composite may not be
entered for it. Otherwise the first line is the key under which it is entered, and a line follows
for each property, in the order of declaration, with a type that is spelled like the one that is
classified for the property; in spite of the names that only a generation reads from inside the
module. The exception is a property without a type in a generation, since its declared type has a
parameter that the composite does not declare: where there are no arguments it is shown as
declared. -/
theorem Catalog.description_shows {catalog : Catalog} {ty : Ty} {owner : Composite}
    (hfound : catalog.lookup ty.rawName = .ok (some (.composite owner)))
    (hbare : ty.arguments = [] → owner.params = []) (registry : Registry) (settings : Settings)
    {scope : String} (hscope : Plan.inScope scope owner.module = true) :
    let plan : Plan := ⟨catalog, registry, settings, scope⟩
    (∀ path, (∃ misuse, catalog.description ty = .error (.malformedGeneric misuse)) ↔
      ∃ misuse, plan.enter ty.rawName ty.arguments path = .error (.malformedGeneric misuse)) ∧
    ∀ text, catalog.description ty = .ok text → ∃ shown : List Ty,
      List.Forall₂ (plan.Shows owner ty.arguments) owner.properties shown ∧
        text = Plan.key owner ty.arguments ++ "\n" ++
          String.join (List.zipWith Property.line owner.properties shown) := by
  intro plan
  have hcomposite : plan.composite ty.rawName = .ok owner := by
    rw [Plan.composite_of_lookup hfound, if_pos hscope]
  rw [description_composite hfound]
  refine ⟨fun path => ?_, fun text htext => ?_⟩
  · rw [Composite.malformed_description_iff, Plan.malformed_enter_iff hcomposite]
  · by_cases hmiscounts : owner.Miscounts ty.arguments
    · rw [Composite.description_of_miscounts hmiscounts] at htext
      cases htext
    · rw [Composite.description_of_counts hmiscounts] at htext
      obtain ⟨lines, hlines, rfl⟩ := map_eq_ok htext
      obtain ⟨types, htypes, rfl⟩ := exists_of_mapM_map hlines
      obtain ⟨shown, hshown, hzip⟩ := Plan.exists_shown hbare htypes
      exact ⟨shown, hshown, by rw [Composite.header_eq_key hbare, hzip]⟩

def pair : Composite where
  name := "Pair"
  module := "pl"
  params := ["T", "U"]
  properties := [.bean "rest" (.applied "Pair" [.param "U", .named "Foo"]), .bean "first" (.param "T"),
    { Property.bean "hash" (.named "int") with writer := none }]

/-- A composite and another one that it names without the module. -/
def pairing : Catalog where
  definitions := [.composite pair, .composite ⟨"Foo", "pl", [], []⟩]

theorem Catalog.description_shows_pairing :
    pairing.description (.applied "Pair" [.named "pl.Foo", .named "Set"]) =
        .ok ("pl.Pair<Foo, Set>\n * Pair<Set, Foo> rest (getRest/setRest)\n" ++
          " * Foo first (getFirst/setFirst)\n * int hash (getHash, read-only)\n") ∧
      ∃ shown, List.Forall₂
        (Plan.Shows ⟨pairing, .builtin, {}, "pl"⟩ pair [.named "pl.Foo", .named "Set"])
        pair.properties shown := by
  have htext : pairing.description (.applied "Pair" [.named "pl.Foo", .named "Set"]) =
      .ok ("pl.Pair<Foo, Set>\n * Pair<Set, Foo> rest (getRest/setRest)\n" ++
        " * Foo first (getFirst/setFirst)\n * int hash (getHash, read-only)\n") := by
    rfl
  have hfound : pairing.lookup (Ty.applied "Pair" [.named "pl.Foo", .named "Set"]).rawName =
      .ok (some (.composite pair)) := rfl
  have hscope : Plan.inScope "pl" pair.module = true := rfl
  obtain ⟨-, hshows⟩ := description_shows hfound (fun hargs => nomatch hargs) .builtin {} hscope
  obtain ⟨shown, hshown, -⟩ := hshows _ htext
  exact ⟨htext, shown, hshown⟩

def cell : Composite := ⟨"Cell", "pl", [], [.bean "item" (.param "T")]⟩

/-- A composite that does not declare the parameter in it. -/
def cells : Catalog where
  definitions := [.composite cell]

/-- What is described without arguments need not have a type in a generation. -/
theorem Catalog.description_undeclared :
    cells.Reachable ∧ cells.lookup "pl.Cell" = .ok (some (.composite cell)) ∧ cell.params = [] ∧
      cells.description (.named "pl.Cell") =
        .ok "pl.Cell\n * T item (getItem/setItem)\n" ∧
      (¬ ∃ types, List.Forall₂ (Plan.Classifies ⟨cells, .builtin, {}, "pl"⟩ cell [])
        cell.properties types) ∧
      (cells.fixture .builtin {} (.seeded 0) "pl.Cell").result =
        .error ⟨.unresolvableParam "pl.Cell" "T", [⟨"Cell", "item"⟩]⟩ := by
  refine ⟨?_, rfl, rfl, rfl, ?_, ?_⟩
  · exact .ofDefinitions (rfl : ofDefinitions cells.definitions = .ok cells)
  · rintro ⟨types, htypes⟩
    cases htypes with
    | cons hitem _ => cases hitem.type
  · decide +kernel

end Fixture

import Fixture.Proofs.Ty.Places
import Fixture.Shape

/-!
# Names, parameters and their order

A type is made ready for a property in two steps: its names are read from inside the module of the
composite, and its parameters are replaced by the arguments of the composite. The steps do not get
in each other's way, for an argument is inserted as it is, and so its names keep the meaning that
they had where it was written. To read them as well, they have to be read in the argument. And where
the arguments mention parameters of another composite, these are replaced in the arguments or in
what comes out.
-/

namespace Fixture

/-! ### Arguments -/

namespace Binding

variable {owner : Composite} {args filled : List Ty} {param : String} {ty result : Ty}
  {obstacle : Obstacle}

theorem argument_ok {arg : Ty} (h : argument ⟨owner, args⟩ param = .ok arg) :
    ∃ position, owner.positionOf? param = some position ∧ args[position]? = some arg := by
  unfold argument at h
  split at h
  · next hposition =>
    cases h
    exact Option.bind_eq_some_iff.1 hposition
  · cases h

theorem argument_error (h : argument ⟨owner, args⟩ param = .error obstacle) :
    obstacle = .unresolvableParam owner.qualifiedName param ∧
      (owner.positionOf? param).bind (args[·]?) = none := by
  unfold argument at h
  split at h
  · cases h
  · next hnone =>
    cases h
    exact ⟨rfl, hnone⟩

theorem argument_bind {change : Ty → Except Obstacle Ty} (h : args.mapM change = .ok filled)
    (owner : Composite) (param : String) :
    (argument ⟨owner, args⟩ param).bind change = argument ⟨owner, filled⟩ param := by
  cases hposition : owner.positionOf? param with
  | none => simp [argument, hposition, Except.bind]
  | some position =>
    cases harg : args[position]? with
    | none =>
      have hnone : filled[position]? = none := by
        rw [List.getElem?_eq_none_iff, length_of_mapM h]
        exact List.getElem?_eq_none_iff.1 harg
      simp [argument, hposition, harg, hnone, Except.bind]
    | some arg =>
      obtain ⟨last, hlast, hfilled⟩ := getElem?_of_mapM h harg
      simp [argument, hposition, harg, hfilled, hlast, Except.bind]

theorem substitute_error (h : substitute ⟨owner, args⟩ ty = .error obstacle) :
    ∃ param ∈ ty.params, obstacle = .unresolvableParam owner.qualifiedName param ∧
      (owner.positionOf? param).bind (args[·]?) = none := by
  obtain ⟨param, hparam, hargument⟩ := ty.built_params.exists_of_substitute_error h
  exact ⟨param, hparam, argument_error hargument⟩

/-- A result has the names of the type, in some spelling, where the type has them, and the argument
of a parameter, whole and as it is, where the type has the parameter. -/
structure Fills (binding : Binding) (spell : String → String) (ty result : Ty) : Prop where
  named : ∀ place name, ty.at? place = some (.named name) →
    result.at? place = some (.named (spell name))
  applied : ∀ place raw inner, ty.at? place = some (.applied raw inner) →
    ∃ filled, result.at? place = some (.applied (spell raw) filled) ∧ filled.length = inner.length
  param : ∀ place param, ty.at? place = some (.param param) →
    ∃ position arg, binding.owner.positionOf? param = some position ∧
      binding.args[position]? = some arg ∧ result.at? place = some arg

theorem fills_substitute {spell : String → String}
    (h : substitute ⟨owner, args⟩ (ty.mapNames spell) = .ok result) :
    Fills ⟨owner, args⟩ spell ty result := by
  have hat : ∀ place part, ty.at? place = some part → ∃ filled,
      substitute ⟨owner, args⟩ (part.mapNames spell) = .ok filled ∧
        result.at? place = some filled := by
    intro place part hpart
    apply Ty.at?_substitute h
    rw [Ty.at?_mapNames, hpart, Option.map_some]
  refine ⟨fun place name hname => ?_, fun place raw inner hinner => ?_,
    fun place param hparam => ?_⟩
  · obtain ⟨filled, hfilled, hplace⟩ := hat place _ hname
    cases hfilled
    exact hplace
  · obtain ⟨filled, hfilled, hplace⟩ := hat place _ hinner
    rw [Ty.mapNames, Ty.mapNamesAll_eq_map, substitute, Ty.substitute,
      Ty.substituteAll_eq_mapM] at hfilled
    obtain ⟨results, hall, rfl⟩ := map_eq_ok hfilled
    exact ⟨results, hplace, by rw [length_of_mapM hall, List.length_map]⟩
  · obtain ⟨filled, hfilled, hplace⟩ := hat place _ hparam
    obtain ⟨position, hposition, harg⟩ := argument_ok hfilled
    exact ⟨position, filled, hposition, harg, hplace⟩

end Binding

/-! ### Names -/

namespace Catalog

theorem qualifyName_qualifyName (catalog : Catalog) (module name : String) :
    catalog.qualifyName module (catalog.qualifyName module name) =
      catalog.qualifyName module name := by
  by_cases h : !Name.isDotted name && catalog.contains (Name.qualify module name)
  · rw [qualifyName.eq_def catalog module name, if_pos h]
    by_cases hmodule : module.isEmpty
    · have hsame : Name.qualify module name = name := if_pos hmodule
      rw [hsame, qualifyName, hsame, ite_self]
    · -- The qualified form has a dot, so it is not read again.
      have hdotted : Name.isDotted (Name.qualify module name) = true := by
        simp [Name.isDotted, Name.qualify, hmodule]
      rw [qualifyName, hdotted]
      rfl
  · rw [qualifyName.eq_def catalog module name, if_neg h, qualifyName, if_neg h]

theorem qualifyIn_qualifyIn (catalog : Catalog) (module : String) (ty : Ty) :
    catalog.qualifyIn module (catalog.qualifyIn module ty) = catalog.qualifyIn module ty := by
  rw [qualifyIn, qualifyIn, Ty.mapNames_mapNames]
  simp only [qualifyName_qualifyName]

end Catalog

namespace Binding

theorem map_qualifyIn (catalog : Catalog) (module : String) (owner : Composite) (args : List Ty)
    (ty : Ty) :
    (substitute ⟨owner, args⟩ ty).map (catalog.qualifyIn module) =
      substitute ⟨owner, args.map (catalog.qualifyIn module)⟩ (catalog.qualifyIn module ty) := by
  have hargs : args.mapM (fun arg => Except.ok (ε := Obstacle) (catalog.qualifyIn module arg)) =
      .ok (args.map (catalog.qualifyIn module)) := List.mapM_pure
  have hvalue : (fun param => (argument ⟨owner, args⟩ param).map (catalog.qualifyIn module)) =
      argument ⟨owner, args.map (catalog.qualifyIn module)⟩ := by
    funext param
    rw [← argument_bind hargs owner param]
    cases argument ⟨owner, args⟩ param <;> rfl
  have hread := ty.mapNames_substitute (catalog.qualifyName module) (argument ⟨owner, args⟩)
  show (ty.substitute _).map (Ty.mapNames _) = _
  rw [hread]
  exact congrArg ((catalog.qualifyIn module ty).substitute ·) hvalue

/-- The names of a type are read from inside a module once and for all. It does not matter whether
they are read before the parameters are replaced or afterwards, with the same obstacle if there is
one, provided that the names in the arguments are read from there too; and those that have been read
from there already stay as they are. A replacement itself inserts the arguments as they are, into a
type whose names are read from wherever it may be; so arguments that were written inside another
module keep what their names mean there. -/
theorem substitute_qualifyIn (catalog : Catalog) (module : String) (owner : Composite)
    (args : List Ty) (ty : Ty) :
    let read := catalog.qualifyIn module
    read (read ty) = read ty ∧
    (substitute ⟨owner, args⟩ ty).map read = substitute ⟨owner, args.map read⟩ (read ty) ∧
    (∀ obstacle, substitute ⟨owner, args⟩ ty = .error obstacle →
      ∃ param ∈ ty.params, obstacle = .unresolvableParam owner.qualifiedName param ∧
        (owner.positionOf? param).bind (args[·]?) = none) ∧
    ((∀ arg ∈ args, read arg = arg) →
      (substitute ⟨owner, args⟩ ty).map read = substitute ⟨owner, args⟩ (read ty)) ∧
    (∀ result, substitute ⟨owner, args⟩ ty = .ok result → Fills ⟨owner, args⟩ id ty result) ∧
    (∀ result, substitute ⟨owner, args⟩ (read ty) = .ok result →
      Fills ⟨owner, args⟩ (catalog.qualifyName module) ty result) ∧
    (∀ (home : String) (written : List Ty) (result : Ty),
      substitute ⟨owner, written.map (catalog.qualifyIn home)⟩ (read ty) = .ok result →
        ∀ place param, ty.at? place = some (.param param) →
          ∃ position arg, owner.positionOf? param = some position ∧
            written[position]? = some arg ∧
              result.at? place = some (catalog.qualifyIn home arg)) := by
  intro read
  refine ⟨catalog.qualifyIn_qualifyIn module ty, map_qualifyIn catalog module owner args ty,
    fun obstacle => substitute_error, fun hread => ?_, fun result h => ?_,
    fun result => fills_substitute, fun home written result h place param hparam => ?_⟩
  · have hargs : args.map read = args := (List.map_congr_left hread).trans (List.map_id _)
    rw [map_qualifyIn catalog module owner args ty, hargs]
  · rw [← ty.mapNames_id] at h
    exact fills_substitute h
  · obtain ⟨position, arg, hposition, harg, hplace⟩ := (fills_substitute h).param place param hparam
    rw [List.getElem?_map] at harg
    obtain ⟨source, hsource, rfl⟩ := Option.map_eq_some_iff.1 harg
    exact ⟨position, source, hposition, hsource, hplace⟩

/-- An entry of a diary whose module has dates of its own, with a date from elsewhere. -/
def diaryEntry : Composite := ⟨"Entry", "pl", ["T"], []⟩

def ownDates : Catalog := { definitions := [.composite ⟨"Date", "pl", [], []⟩] }

/-- A date that was written in a shop stays one beside a date of the module. -/
theorem substitute_qualifyIn_entry :
    let ty := Ty.applied "Pair" [.param "T", .named "Date"]
    let read := ownDates.qualifyIn "pl"
    read ty = .applied "Pair" [.param "T", .named "pl.Date"] ∧
    substitute ⟨diaryEntry, [.named "Date"]⟩ (read ty) =
      .ok (.applied "Pair" [.named "Date", .named "pl.Date"]) ∧
    ty.at? [0] = some (.param "T") ∧
    (∃ position arg, diaryEntry.positionOf? "T" = some position ∧
      [Ty.named "Date"][position]? = some arg ∧
        (Ty.applied "Pair" [.named "Date", .named "pl.Date"]).at? [0] =
          some (ownDates.qualifyIn "shop" arg)) ∧
    (∀ arg ∈ [Ty.named "pl.Date"], read arg = arg) ∧
    (substitute ⟨diaryEntry, [.named "pl.Date"]⟩ ty).map read =
      substitute ⟨diaryEntry, [.named "pl.Date"]⟩ (read ty) ∧
    substitute ⟨diaryEntry, []⟩ ty = .error (.unresolvableParam "pl.Entry" "T") ∧
    "T" ∈ ty.params := by
  intro ty read
  have hresult : substitute ⟨diaryEntry, [.named "Date"]⟩ (read ty) =
      .ok (.applied "Pair" [.named "Date", .named "pl.Date"]) := rfl
  have hplace : ty.at? [0] = some (.param "T") := rfl
  have hread : ∀ arg ∈ [Ty.named "pl.Date"], read arg = arg := by
    intro arg harg
    obtain rfl := List.mem_singleton.1 harg
    rfl
  have hnone : substitute ⟨diaryEntry, []⟩ ty = .error (.unresolvableParam "pl.Entry" "T") := rfl
  obtain ⟨-, -, -, -, -, -, hhome⟩ := substitute_qualifyIn ownDates "pl" diaryEntry [] ty
  obtain ⟨-, -, -, hsame, -⟩ :=
    substitute_qualifyIn ownDates "pl" diaryEntry [.named "pl.Date"] ty
  obtain ⟨-, -, herror, -⟩ := substitute_qualifyIn ownDates "pl" diaryEntry [] ty
  obtain ⟨param, hparam, heq, -⟩ := herror _ hnone
  cases heq
  exact ⟨rfl, hresult, hplace, hhome "shop" [.named "Date"] _ hresult [0] "T" hplace, hread,
    hsame hread, hnone, hparam⟩

/-! ### Arguments that mention parameters -/

/-- Where the arguments of one composite mention parameters of another one and these are replaced in
all of them, it is the same to replace the parameters of both one after the other, or only those of
the first by the arguments as they became. If that fails, it is for want of an argument in the
first. -/
theorem substitute_twice (first second : Composite) {args others filled : List Ty}
    (h : args.mapM (substitute ⟨second, others⟩) = .ok filled) (ty : Ty) :
    (substitute ⟨first, args⟩ ty).bind (substitute ⟨second, others⟩) =
        substitute ⟨first, filled⟩ ty ∧
      ∀ obstacle, substitute ⟨first, filled⟩ ty = .error obstacle →
        ∃ param ∈ ty.params, obstacle = .unresolvableParam first.qualifiedName param ∧
          (first.positionOf? param).bind (filled[·]?) = none := by
  refine ⟨?_, fun obstacle => substitute_error⟩
  have hnext : ∀ param arg, argument ⟨first, args⟩ param = .ok arg →
      ∃ last, arg.substitute (argument ⟨second, others⟩) = .ok last := by
    intro param arg harg
    obtain ⟨position, -, hposition⟩ := argument_ok harg
    obtain ⟨last, hlast, -⟩ := getElem?_of_mapM h hposition
    exact ⟨last, hlast⟩
  calc (substitute ⟨first, args⟩ ty).bind (substitute ⟨second, others⟩)
      = ty.substitute fun param =>
          (argument ⟨first, args⟩ param).bind (substitute ⟨second, others⟩) :=
        Ty.substitute_substitute hnext ty
    _ = substitute ⟨first, filled⟩ ty := by
        simp only [argument_bind h]
        rfl

/-- A shelf of pairs, where both call their parameter `T`. The pair is entered with too few
arguments, so that `U` stands for nothing. -/
theorem substitute_twice_shelf :
    let pair : Composite := ⟨"Pair", "pl", ["T", "U"], []⟩
    let shelf : Composite := ⟨"Shelf", "pl", ["S", "T"], []⟩
    let args := [Ty.applied "List" [.param "T"]]
    let filled := [Ty.applied "List" [.named "Date"]]
    args.mapM (substitute ⟨shelf, [.named "int", .named "Date"]⟩) = .ok filled ∧
    (substitute ⟨pair, args⟩ (.applied "Set" [.param "T"])).bind
        (substitute ⟨shelf, [.named "int", .named "Date"]⟩) =
      .ok (.applied "Set" [.applied "List" [.named "Date"]]) ∧
    (substitute ⟨pair, args⟩ (.applied "Map" [.param "T", .param "U"])).bind
        (substitute ⟨shelf, [.named "int", .named "Date"]⟩) =
      .error (.unresolvableParam "pl.Pair" "U") := by
  intro pair shelf args filled
  have h : args.mapM (substitute ⟨shelf, [.named "int", .named "Date"]⟩) = .ok filled := rfl
  obtain ⟨hset, -⟩ := substitute_twice pair shelf h (.applied "Set" [.param "T"])
  obtain ⟨hmap, -⟩ := substitute_twice pair shelf h (.applied "Map" [.param "T", .param "U"])
  exact ⟨h, hset.trans rfl, hmap.trans rfl⟩

end Binding

end Fixture

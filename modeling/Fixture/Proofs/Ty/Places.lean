import Fixture.Proofs.Ty.Renamed

/-!
# Places in a type

A place in a type is reached from its top through arguments, and what stands there is a type again.
Reading names and replacing parameters go to work at every place by itself: afterwards there stands
what is made of what stood there before. So it does not matter in which order both are done, and a
replacement whose results are replaced again is one replacement. Only that the first one ends early
has to be ruled out for the second, for it would be the first that is told of.
-/

namespace Fixture.Ty

/-- What stands at a place. -/
def at? : Ty → List Nat → Option Ty
  | ty, [] => some ty
  | applied _ args, position :: rest => args[position]?.bind fun arg => arg.at? rest
  | _, _ :: _ => none

variable {ε : Type} {value : String → Except ε Ty} {ty part result : Ty} {place : List Nat}

/-! ### Names -/

theorem at?_mapNames (spell : String → String) (ty : Ty) (place : List Nat) :
    (ty.mapNames spell).at? place = (ty.at? place).map (mapNames spell) := by
  induction place generalizing ty with
  | nil => cases ty <;> rfl
  | cons position rest ih =>
    cases ty with
    | named => rfl
    | param => rfl
    | applied raw args =>
      rw [mapNames, mapNamesAll_eq_map, at?, at?, List.getElem?_map]
      cases args[position]? with
      | none => rfl
      | some arg => exact ih arg

theorem mapNames_id (ty : Ty) : ty.mapNames id = ty := by
  have hbuilt := ty.built
  induction hbuilt with
  | named => rfl
  | param => rfl
  | applied _ _ ih =>
    rw [mapNames, mapNamesAll_eq_map]
    exact congrArg _ ((List.map_congr_left ih).trans (List.map_id _))

theorem mapNames_mapNames (first second : String → String) (ty : Ty) :
    (ty.mapNames first).mapNames second = ty.mapNames fun name => second (first name) := by
  have hbuilt := ty.built
  induction hbuilt with
  | named => rfl
  | param => rfl
  | applied _ _ ih =>
    rw [mapNames, mapNames, mapNames, mapNamesAll_eq_map, mapNamesAll_eq_map, mapNamesAll_eq_map,
      List.map_map]
    exact congrArg _ (List.map_congr_left ih)

/-- Names are read before the parameters are replaced or afterwards, if they are also read in what
stands for the parameters. -/
theorem mapNames_substitute (spell : String → String) (value : String → Except ε Ty) (ty : Ty) :
    (ty.substitute value).map (mapNames spell) =
      (ty.mapNames spell).substitute fun name => (value name).map (mapNames spell) := by
  have hbuilt := ty.built
  induction hbuilt with
  | named => rfl
  | param => rfl
  | @applied raw args _ _ ih =>
    have hargs := map_mapM ih
    rw [mapNames, substitute, substitute, substituteAll_eq_mapM, substituteAll_eq_mapM,
      mapNamesAll_eq_map, List.mapM_map]
    show _ = (args.mapM fun arg : Ty => (arg.mapNames spell).substitute _).map (applied (spell raw))
    rw [← hargs]
    cases args.mapM (substitute value) with
    | error e => rfl
    | ok results => simp [Except.map, mapNames, mapNamesAll_eq_map]

/-! ### Parameters -/

theorem at?_substitute (h : ty.substitute value = .ok result) (hpart : ty.at? place = some part) :
    ∃ filled, part.substitute value = .ok filled ∧ result.at? place = some filled := by
  induction place generalizing ty result with
  | nil =>
    have heq : ty = part := by
      rw [at?] at hpart
      exact Option.some.inj hpart
    subst heq
    exact ⟨result, h, by rw [at?]⟩
  | cons position rest ih =>
    cases ty with
    | named => cases hpart
    | param => cases hpart
    | applied raw args =>
      rw [substitute, substituteAll_eq_mapM] at h
      obtain ⟨results, hall, rfl⟩ := map_eq_ok h
      obtain ⟨arg, harg, hrest⟩ := Option.bind_eq_some_iff.1 hpart
      obtain ⟨filled, hfilled, hposition⟩ := getElem?_of_mapM hall harg
      obtain ⟨last, hlast, hat⟩ := ih hfilled hrest
      exact ⟨last, hlast, by rw [at?, hposition]; exact hat⟩

theorem exists_substitute_iff : (∃ result, ty.substitute value = .ok result) ↔
    ty.Built (fun _ => True) fun name => ∃ arg, value name = .ok arg := by
  constructor
  · rintro ⟨result, h⟩
    have hbuilt := ty.built
    induction hbuilt generalizing result with
    | named => exact .named trivial
    | param => exact .param ⟨result, h⟩
    | applied _ _ ih =>
      rw [substitute, substituteAll_eq_mapM] at h
      obtain ⟨results, hall, -⟩ := map_eq_ok h
      refine .applied trivial fun arg harg => ?_
      obtain ⟨position, hposition⟩ := List.mem_iff_getElem?.1 harg
      obtain ⟨filled, hfilled, -⟩ := getElem?_of_mapM hall hposition
      exact ih arg harg filled hfilled
  · intro hbuilt
    induction hbuilt with
    | named => exact ⟨_, rfl⟩
    | param hvalue => exact hvalue
    | applied _ _ ih =>
      obtain ⟨results, hall⟩ := exists_mapM ih
      exact ⟨_, by rw [substitute, substituteAll_eq_mapM, hall]; rfl⟩

theorem substitute_substitute {next : String → Except ε Ty}
    (hnext : ∀ name arg, value name = .ok arg → ∃ filled, arg.substitute next = .ok filled)
    (ty : Ty) :
    (ty.substitute value).bind (substitute next) =
      ty.substitute fun name => (value name).bind (substitute next) := by
  have htotal : ∀ source middle : Ty, source.substitute value = .ok middle →
      ∃ last, middle.substitute next = .ok last := by
    intro source middle h
    refine exists_substitute_iff.2 (source.built.substitute (fun name _ arg harg => ?_) h)
    exact exists_substitute_iff.1 (hnext name arg harg)
  have hbuilt := ty.built
  induction hbuilt with
  | named => rfl
  | param => rfl
  | @applied raw args _ _ ih =>
    have hargs := mapM_bind_mapM ih fun source _ => htotal source
    rw [substitute, substitute, substituteAll_eq_mapM, substituteAll_eq_mapM, ← hargs]
    cases args.mapM (substitute value) with
    | error e => rfl
    | ok results =>
      show (applied raw results).substitute next = (results.mapM (substitute next)).map (applied raw)
      rw [substitute, substituteAll_eq_mapM]

end Fixture.Ty

import Fixture.Proofs.Ty.Contents

/-!
# Other names for parameters

The parameters in a type get other names. That has nothing to do with the names in it, and where
parameters are replaced under their new names by what they stood for under the old ones, the same
type comes out.
-/

namespace Fixture.Ty

mutual

/-- The parameters in a type, at any depth. -/
def params : Ty → List String
  | named _ => []
  | param name => [name]
  | applied _ args => paramsAll args

def paramsAll : List Ty → List String
  | [] => []
  | ty :: rest => params ty ++ paramsAll rest

end

mutual

/-- The same type with another name for each parameter. -/
def mapParams (rename : String → String) : Ty → Ty
  | named name => named name
  | param name => param (rename name)
  | applied raw args => applied raw (mapParamsAll rename args)

def mapParamsAll (rename : String → String) : List Ty → List Ty
  | [] => []
  | ty :: rest => mapParams rename ty :: mapParamsAll rename rest

end

theorem paramsAll_eq_flatMap (args : List Ty) : paramsAll args = args.flatMap params := by
  induction args with
  | nil => rfl
  | cons ty rest ih => rw [paramsAll, ih, List.flatMap_cons]

theorem mapParamsAll_eq_map (rename : String → String) (args : List Ty) :
    mapParamsAll rename args = args.map (mapParams rename) := by
  induction args with
  | nil => rfl
  | cons ty rest ih => rw [mapParamsAll, ih, List.map_cons]

theorem built_params (ty : Ty) : ty.Built (fun _ => True) (· ∈ ty.params) := by
  have hbuilt := ty.built
  induction hbuilt with
  | named => exact .named trivial
  | param => exact .param (List.mem_singleton_self _)
  | applied _ _ ih =>
    refine .applied trivial fun arg harg => (ih arg harg).imp (fun _ => id) fun name hname => ?_
    rw [params, paramsAll_eq_flatMap]
    exact List.mem_flatMap.2 ⟨arg, harg, hname⟩

theorem mapNames_mapParams (spell rename : String → String) (ty : Ty) :
    (ty.mapParams rename).mapNames spell = (ty.mapNames spell).mapParams rename := by
  have hbuilt := ty.built
  induction hbuilt with
  | named => rfl
  | param => rfl
  | applied _ _ ih =>
    rw [mapParams, mapNames, mapNames, mapParams, mapParamsAll_eq_map, mapNamesAll_eq_map,
      mapNamesAll_eq_map, mapParamsAll_eq_map, List.map_map, List.map_map]
    exact congrArg _ (List.map_congr_left ih)

theorem Built.substitute_mapParams {known declared : String → Prop} {ε δ : Type}
    {value : String → Except ε Ty} {other : String → Except δ Ty} {reword : ε → δ}
    {rename : String → String} {ty : Ty} (hty : ty.Built known declared)
    (h : ∀ name, declared name → other (rename name) = (value name).mapError reword) :
    (ty.mapParams rename).substitute other = (ty.substitute value).mapError reword := by
  induction hty with
  | named => rfl
  | param hname => exact h _ hname
  | @applied raw args _ _ ih =>
    have hargs : args.mapM (Ty.substitute other ∘ mapParams rename) =
        (args.mapM (Ty.substitute value)).mapError reword := mapM_mapError ih
    rw [mapParams, Ty.substitute, Ty.substitute, mapParamsAll_eq_map, substituteAll_eq_mapM,
      substituteAll_eq_mapM, List.mapM_map, hargs]
    cases args.mapM (Ty.substitute value) <;> rfl

end Fixture.Ty

import Fixture.Proofs.Ty.Rules

/-!
# What stands in a type

A type is built from names and parameters. Reading its names from inside a module exchanges the
names, and replacing its parameters puts what they stand for in their places; so what a type is
built from afterwards can be told from what it was built from before.
-/

namespace Fixture.Ty

mutual

/-- The names in a type, at any depth. Parameters are not among them. -/
def names : Ty → List String
  | named name => [name]
  | param _ => []
  | applied raw args => raw :: namesAll args

def namesAll : List Ty → List String
  | [] => []
  | ty :: rest => names ty ++ namesAll rest

end

/-- The names in a type are of one kind, and its parameters are of another. -/
inductive Built (known declared : String → Prop) : Ty → Prop
  | named {name : String} (hname : known name) : Built known declared (.named name)
  | param {name : String} (hname : declared name) : Built known declared (.param name)
  | applied {raw : String} {args : List Ty} (hraw : known raw)
      (hargs : ∀ arg ∈ args, Built known declared arg) : Built known declared (.applied raw args)

/-- A type without parameters in which only known names stand. -/
def Ground (known : String → Prop) (ty : Ty) : Prop := ty.Built known fun _ => False

def ParamFree (ty : Ty) : Prop := ty.Ground fun _ => True

namespace Built

variable {known other declared allowed : String → Prop} {ty result : Ty}

theorem args_of_applied {raw : String} {args : List Ty}
    (h : Built known declared (.applied raw args)) :
    known raw ∧ ∀ arg ∈ args, Built known declared arg := by
  cases h with
  | applied hraw hargs => exact ⟨hraw, hargs⟩

theorem imp (h : ty.Built known declared) (hnames : ∀ name, known name → other name)
    (hparams : ∀ name, declared name → allowed name) : ty.Built other allowed := by
  induction h with
  | named hname => exact .named (hnames _ hname)
  | param hname => exact .param (hparams _ hname)
  | applied hraw _ ih => exact .applied (hnames _ hraw) ih

theorem and (h : ty.Built known declared) (hother : ty.Built other declared) :
    ty.Built (fun name => known name ∧ other name) declared := by
  induction h with
  | named hname =>
    cases hother with
    | named hsecond => exact .named ⟨hname, hsecond⟩
  | param hname => exact .param hname
  | applied hraw _ ih =>
    obtain ⟨hsecond, hargs⟩ := hother.args_of_applied
    exact .applied ⟨hraw, hsecond⟩ fun arg harg => ih arg harg (hargs arg harg)

end Built

mutual

theorem built_names : ∀ ty : Ty, ty.Built (· ∈ ty.names) fun _ => True
  | .named _ => .named (List.mem_singleton_self _)
  | .param _ => .param trivial
  | .applied _ args =>
    .applied (List.mem_cons_self ..) fun arg harg =>
      (built_namesAll args arg harg).imp (fun _ => List.mem_cons_of_mem _) fun _ => id

theorem built_namesAll : ∀ args : List Ty, ∀ arg ∈ args,
    arg.Built (· ∈ namesAll args) fun _ => True
  | [], _, harg => absurd harg List.not_mem_nil
  | first :: rest, arg, harg => by
    have hfirst := built_names first
    rcases List.mem_cons.1 harg with rfl | harg
    · exact hfirst.imp (fun _ => List.mem_append_left _) fun _ => id
    · exact (built_namesAll rest arg harg).imp (fun _ => List.mem_append_right _) fun _ => id

end

theorem built (ty : Ty) : ty.Built (fun _ => True) fun _ => True :=
  ty.built_names.imp (fun _ _ => trivial) fun _ => id

namespace Built

variable {known other declared allowed : String → Prop} {ty result : Ty}

theorem mapNames {spell : String → String}
    (h : ty.Built (fun name => known (spell name)) declared) :
    (ty.mapNames spell).Built known declared := by
  induction h with
  | named hname => exact .named hname
  | param hname => exact .param hname
  | applied hraw _ ih =>
    rw [Ty.mapNames, mapNamesAll_eq_map]
    exact .applied hraw (List.forall_mem_map.2 ih)

theorem mapNames_congr {first second : String → String}
    (h : ty.Built (fun name => first name = second name) declared) :
    ty.mapNames first = ty.mapNames second := by
  induction h with
  | named hname => rw [Ty.mapNames, Ty.mapNames, hname]
  | param _ => rfl
  | applied hraw _ ih =>
    rw [Ty.mapNames, Ty.mapNames, mapNamesAll_eq_map, mapNamesAll_eq_map, hraw,
      List.map_congr_left ih]

theorem bindParams (params : List String) (h : ty.Built known declared) :
    (ty.bindParams params).Built known fun name => name ∈ params ∨ declared name := by
  induction h with
  | @named name hname =>
    rw [Ty.bindParams]
    split
    · next hparam => exact .param (.inl (List.contains_iff_mem.1 hparam))
    · exact .named hname
  | param hname => exact .param (.inr hname)
  | applied hraw _ ih =>
    rw [Ty.bindParams, bindParamsAll_eq_map]
    exact .applied hraw (List.forall_mem_map.2 ih)

variable {ε : Type} {value : String → Except ε Ty}

theorem substitute (hty : ty.Built known declared)
    (hvalue : ∀ name, declared name → ∀ arg, value name = .ok arg → arg.Built known allowed)
    (h : ty.substitute value = .ok result) : result.Built known allowed := by
  induction hty generalizing result with
  | named hname =>
    cases h
    exact .named hname
  | param hname => exact hvalue _ hname result h
  | applied hraw _ ih =>
    rw [Ty.substitute, substituteAll_eq_mapM] at h
    obtain ⟨results, hall, rfl⟩ := map_eq_ok h
    refine .applied hraw fun arg harg => ?_
    obtain ⟨source, hsource, hresult⟩ := exists_of_mem_mapM hall harg
    exact ih source hsource hresult

theorem exists_of_substitute_error {failure : ε} (hty : ty.Built known declared)
    (h : ty.substitute value = .error failure) :
    ∃ name, declared name ∧ value name = .error failure := by
  induction hty with
  | named => cases h
  | param hname => exact ⟨_, hname, h⟩
  | applied _ _ ih =>
    rw [Ty.substitute, substituteAll_eq_mapM] at h
    obtain ⟨source, hsource, hresult⟩ := exists_of_mapM_error (map_eq_error h)
    exact ih source hsource hresult

end Built

theorem Ground.rawName {known : String → Prop} {ty : Ty} (h : ty.Ground known) :
    known ty.rawName := by
  cases h with
  | named hname => exact hname
  | param hname => exact hname.elim
  | applied hraw _ => exact hraw

theorem Follows.paramFree {rules : Rules} {ty : Ty} (h : ty.Follows rules False) :
    ty.ParamFree := by
  induction h with
  | named => exact .named trivial
  | param hparams => exact hparams.elim
  | applied _ _ ih => exact .applied trivial ih

/-- Rules that say nothing. -/
def Rules.lax : Rules where
  named _ := True
  applied _ _ := True
  named_qualify _ _ h := h
  applied_qualify _ _ _ h := h

theorem follows_lax (ty : Ty) : ty.Follows .lax True := by
  have hbuilt := ty.built
  induction hbuilt with
  | named => exact .named trivial
  | param => exact .param trivial
  | applied _ _ ih => exact .applied trivial ih

end Fixture.Ty

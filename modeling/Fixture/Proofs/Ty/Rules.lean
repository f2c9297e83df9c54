import Fixture.Proofs.Except
import Fixture.Ty.Basic

/-!
# Rules for types

What is asked of the names in a type, and of the number of arguments a name is applied to, wherever
in the type it stands. A type that follows rules still does when its names are read from inside a
module, and when its parameters are replaced by types that follow them.
-/

namespace Fixture.Ty

structure Rules where
  named : String → Prop
  applied : String → (count : Nat) → Prop
  named_qualify : ∀ module name, named name → named (Name.qualify module name)
  applied_qualify : ∀ module raw count, applied raw count → applied (Name.qualify module raw) count

/-- A type follows rules, and it has parameters only where they are allowed. -/
inductive Follows (rules : Rules) (params : Prop) : Ty → Prop
  | named {name : String} (hname : rules.named name) : Follows rules params (.named name)
  | param {name : String} (hparams : params) : Follows rules params (.param name)
  | applied {raw : String} {args : List Ty} (hraw : rules.applied raw args.length)
      (hargs : ∀ arg ∈ args, Follows rules params arg) : Follows rules params (.applied raw args)

variable {ε : Type} {value : String → Except ε Ty}

theorem substituteAll_eq_mapM (args : List Ty) :
    substituteAll value args = args.mapM (substitute value) := by
  induction args with
  | nil => rfl
  | cons arg rest ih =>
    rw [substituteAll, List.mapM_cons, ih]
    cases substitute value arg with
    | error e => rfl
    | ok first => cases rest.mapM (substitute value) <;> rfl

namespace Follows

variable {rules : Rules} {params : Prop} {ty result : Ty}

theorem args_of_applied {raw : String} {args : List Ty}
    (h : Follows rules params (.applied raw args)) :
    rules.applied raw args.length ∧ ∀ arg ∈ args, Follows rules params arg := by
  cases h with
  | applied hraw hargs => exact ⟨hraw, hargs⟩

theorem mapNames {spell : String → String} (h : ty.Follows rules params)
    (hspell : ∀ name, spell name = name ∨ ∃ module, spell name = Name.qualify module name) :
    (ty.mapNames spell).Follows rules params := by
  induction h with
  | @named name hname =>
    rw [Ty.mapNames]
    refine .named ?_
    rcases hspell name with heq | ⟨module, heq⟩
    · rwa [heq]
    · rw [heq]
      exact rules.named_qualify module name hname
  | param hparams => exact .param hparams
  | @applied raw args hraw _ ih =>
    rw [Ty.mapNames, mapNamesAll_eq_map]
    refine .applied ?_ fun arg harg => ?_
    · rw [List.length_map]
      rcases hspell raw with heq | ⟨module, heq⟩
      · rwa [heq]
      · rw [heq]
        exact rules.applied_qualify module raw _ hraw
    · obtain ⟨source, hsource, rfl⟩ := List.mem_map.1 harg
      exact ih source hsource

theorem substitute {allowed : Prop} (hty : ty.Follows rules params)
    (hvalue : ∀ name ty, value name = .ok ty → ty.Follows rules allowed)
    (h : ty.substitute value = .ok result) : result.Follows rules allowed := by
  induction hty generalizing result with
  | named hname =>
    cases h
    exact .named hname
  | @param name _ => exact hvalue name result h
  | @applied raw args hraw _ ih =>
    rw [Ty.substitute, substituteAll_eq_mapM] at h
    obtain ⟨results, hall, rfl⟩ := map_eq_ok h
    refine .applied (length_of_mapM hall ▸ hraw) fun arg harg => ?_
    obtain ⟨source, hsource, hresult⟩ := exists_of_mem_mapM hall harg
    exact ih source hsource hresult

end Follows

end Fixture.Ty

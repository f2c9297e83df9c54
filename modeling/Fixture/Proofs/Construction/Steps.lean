import Fixture.Construction

/-!
# Running a construction

What each step of a construction does to the progress. One equation says how a step is followed by
another, and every basic step has its own; no other proof looks at how failures and progress are
layered.
-/

namespace Fixture

variable {σ : Type}

namespace Construction

variable {α β : Type}

/-- How a construction ends from some progress, and the progress it leaves. -/
def outcome (action : Construction σ α) (progress : Progress σ) :
    Except Failure α × Progress σ :=
  action.run.run progress

@[simp] theorem outcome_pure (value : α) (progress : Progress σ) :
    outcome (pure value) progress = (.ok value, progress) := rfl

theorem outcome_bind (first : Construction σ α) (next : α → Construction σ β)
    (progress : Progress σ) :
    outcome (first >>= next) progress =
      match outcome first progress with
      | (.ok value, middle) => outcome (next value) middle
      | (.error failure, middle) => (.error failure, middle) := by
  change (match first.run.run progress with
    | (value, middle) => (ExceptT.bindCont next value).run middle) = _
  rw [outcome]
  rcases first.run.run progress with ⟨_ | _, middle⟩ <;> rfl

theorem outcome_bind_ok {first : Construction σ α} {next : α → Construction σ β} {value : α}
    {progress middle : Progress σ} (h : outcome first progress = (.ok value, middle)) :
    outcome (first >>= next) progress = outcome (next value) middle := by
  rw [outcome_bind, h]

theorem outcome_bind_error {first : Construction σ α} {next : α → Construction σ β}
    {failure : Failure} {progress middle : Progress σ}
    (h : outcome first progress = (.error failure, middle)) :
    outcome (first >>= next) progress = (.error failure, middle) := by
  rw [outcome_bind, h]

theorem outcome_emit [Sink σ] (event : Event) (progress : Progress σ) :
    outcome (emit event) progress =
      (.ok (), { progress with sink := Sink.accept progress.sink event }) := rfl

theorem outcome_issue (base : String) (progress : Progress σ) :
    outcome (issue base) progress =
      (.ok (progress.ledger.issue base).1,
        { progress with ledger := (progress.ledger.issue base).2 }) := rfl

theorem outcome_stopAt (obstacle : Obstacle) (progress : Progress σ) :
    outcome (stopAt (α := α) obstacle) progress = (.error { obstacle }, progress) := rfl

theorem outcome_orStop_ok (value : α) (progress : Progress σ) :
    outcome (orStop (.ok value)) progress = (.ok value, progress) := rfl

theorem outcome_orStop_error (obstacle : Obstacle) (progress : Progress σ) :
    outcome (orStop (α := α) (.error obstacle)) progress = (.error { obstacle }, progress) := rfl

theorem outcome_onProperty (owner property : String) (inside : Construction σ α)
    (progress : Progress σ) :
    outcome (onProperty owner property inside) progress =
      ((outcome inside progress).1.mapError (·.seenFrom owner property),
        (outcome inside progress).2) := by
  rw [outcome]
  rcases inside.run.run progress with ⟨_ | _, middle⟩ <;> rfl

theorem outcome_forM_nil (each : β → Construction σ Unit) (progress : Progress σ) :
    outcome (List.forM [] each) progress = (.ok (), progress) := rfl

theorem outcome_forM_cons (each : β → Construction σ Unit) (first : β) (rest : List β)
    (progress : Progress σ) :
    outcome (List.forM (first :: rest) each) progress =
      outcome (each first >>= fun _ => List.forM rest each) progress := rfl

end Construction

namespace Plan

open Construction

variable (plan : Plan)

/-- A literal of a simple type from a supply. -/
def draw (name : String) (supply : Supply) : Except Obstacle String × Supply :=
  (plan.registry.literal plan.catalog name).run.run supply

theorem outcome_literal (name : String) (progress : Progress σ) :
    outcome (plan.literal name) progress =
      ((plan.draw name progress.supply).1.mapError fun obstacle => { obstacle },
        { progress with supply := (plan.draw name progress.supply).2 }) := rfl

/-- The base of the name of a variable with a value of a type. -/
def variableBase (raw : String) : String := Name.uncapitalize (Name.simple raw)

variable [Sink σ]

/-- What is left of the construction of a simple value once its variable has a name. -/
def constructSimple (raw target : String) : Construction σ String :=
  plan.literal raw >>= fun text =>
    emit (.declare (Name.simple raw) target text) >>= fun _ => pure target

/-- What is left of the construction of a composite once it may be entered. -/
def constructComposite (room : Nat) (path : List String) (raw : String) (args : List Ty)
    (owner : Composite) (target : String) : Construction σ String :=
  emit (declaration raw args target) >>= fun _ =>
    (inOrder owner).forM
      (plan.populate (plan.construct room (key owner args :: path)) target owner args) >>=
        fun _ => pure target

/-- What is left of the construction of a composite that has been found. -/
def constructInside : (room : Nat) → (path : List String) → (raw : String) → (args : List Ty) →
    (owner : Composite) → (target : String) → Construction σ String
  | 0, _, _, _, _, _ => stopAt (.tooDeep plan.settings.maxDepth)
  | room + 1, path, raw, args, owner, target =>
    plan.constructComposite room path raw args owner target

theorem construct_eq (room : Nat) (path : List String) (raw : String) (args : List Ty) :
    (plan.construct room path raw args : Construction σ String) =
      issue (variableBase raw) >>= fun target =>
        if plan.isSimple raw then plan.constructSimple raw target
        else orStop (plan.enter raw args path) >>= fun owner =>
          plan.constructInside room path raw args owner target := by
  cases room <;> rw [construct] <;> rfl

theorem construct_simple (room : Nat) (path : List String) (raw : String) (args : List Ty)
    (hsimple : plan.isSimple raw = true) :
    (plan.construct room path raw args : Construction σ String) =
      issue (variableBase raw) >>= plan.constructSimple raw := by
  cases room <;> simp only [construct, hsimple, if_true] <;> rfl

theorem construct_barred (room : Nat) {path : List String} {raw : String} {args : List Ty}
    {obstacle : Obstacle} (hsimple : plan.isSimple raw = false)
    (henter : plan.enter raw args path = .error obstacle) :
    (plan.construct room path raw args : Construction σ String) =
      issue (variableBase raw) >>= fun _ => stopAt obstacle := by
  cases room <;> simp only [construct, hsimple, henter] <;> rfl

theorem construct_zero {path : List String} {raw : String} {args : List Ty} {owner : Composite}
    (hsimple : plan.isSimple raw = false) (henter : plan.enter raw args path = .ok owner) :
    (plan.construct 0 path raw args : Construction σ String) =
      issue (variableBase raw) >>= fun _ => stopAt (.tooDeep plan.settings.maxDepth) := by
  simp only [construct, hsimple, henter]
  rfl

theorem construct_succ (room : Nat) {path : List String} {raw : String} {args : List Ty}
    {owner : Composite} (hsimple : plan.isSimple raw = false)
    (henter : plan.enter raw args path = .ok owner) :
    (plan.construct (room + 1) path raw args : Construction σ String) =
      issue (variableBase raw) >>= plan.constructComposite room path raw args owner := by
  simp only [construct, hsimple, henter]
  rfl

end Plan

end Fixture

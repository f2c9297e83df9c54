import Fixture.Name

/-!
# Types

A type as a property declares it: a name, a generic parameter of the type that declares the
property, or a raw type applied to arguments. Names stand as they were written; whether a name is a
simple kind, a collection or a composite is decided elsewhere.
-/

namespace Fixture

inductive Ty where
  | named (name : String)
  | param (name : String)
  | applied (raw : String) (args : List Ty)
  deriving Inhabited, BEq

namespace Ty

/-- The name in front of the arguments, or the parameter itself. -/
def rawName : Ty → String
  | named name => name
  | param name => name
  | applied raw _ => raw

mutual

/-- The spelling in generated code: simple names only. -/
def display : Ty → String
  | named name => Name.simple name
  | param name => Name.simple name
  | applied raw args => Name.simple raw ++ "<" ++ ", ".intercalate (displayAll args) ++ ">"

def displayAll : List Ty → List String
  | [] => []
  | ty :: rest => display ty :: displayAll rest

end

theorem displayAll_eq_map (args : List Ty) : displayAll args = args.map display := by
  induction args with
  | nil => rfl
  | cons ty rest ih => simp [displayAll, ih]

/-- The arguments in angle brackets; nothing when there are none. -/
def displayArgs (args : List Ty) : String :=
  if args.isEmpty then "" else "<" ++ ", ".intercalate (args.map display) ++ ">"

mutual

/-- The same type with another spelling for each name; parameters stay. -/
def mapNames (spell : String → String) : Ty → Ty
  | named name => named (spell name)
  | param name => param name
  | applied raw args => applied (spell raw) (mapNamesAll spell args)

def mapNamesAll (spell : String → String) : List Ty → List Ty
  | [] => []
  | ty :: rest => mapNames spell ty :: mapNamesAll spell rest

end

theorem mapNamesAll_eq_map (spell : String → String) (args : List Ty) :
    mapNamesAll spell args = args.map (mapNames spell) := by
  induction args with
  | nil => rfl
  | cons ty rest ih => simp [mapNamesAll, ih]

mutual

/-- Plain names that are declared parameters become references to them. A raw name in front of
arguments is never a parameter. -/
def bindParams (params : List String) : Ty → Ty
  | named name => if params.contains name then param name else named name
  | param name => param name
  | applied raw args => applied raw (bindParamsAll params args)

def bindParamsAll (params : List String) : List Ty → List Ty
  | [] => []
  | ty :: rest => bindParams params ty :: bindParamsAll params rest

end

theorem bindParamsAll_eq_map (params : List String) (args : List Ty) :
    bindParamsAll params args = args.map (bindParams params) := by
  induction args with
  | nil => rfl
  | cons ty rest ih => simp [bindParamsAll, ih]

mutual

/-- Every parameter replaced by what it stands for; the first parameter that stands for nothing ends
the replacement. -/
def substitute {ε : Type} (value : String → Except ε Ty) : Ty → Except ε Ty
  | named name => .ok (named name)
  | param name => value name
  | applied raw args => (substituteAll value args).map (applied raw)

def substituteAll {ε : Type} (value : String → Except ε Ty) : List Ty → Except ε (List Ty)
  | [] => .ok []
  | ty :: rest =>
    match substitute value ty with
    | .error e => .error e
    | .ok ty => (substituteAll value rest).map (ty :: ·)

end

end Ty

end Fixture

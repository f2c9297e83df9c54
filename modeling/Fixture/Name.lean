import Fixture.Unicode.Case

/-!
# Dotted names

A type is known by a simple name inside a module; module and name joined by a dot are its qualified
name. Everything else reads names through these functions: the simple name is what follows the last
dot, the module what precedes it, and the first letter changes case when a name becomes a variable
or an accessor.
-/

namespace Fixture.Name

/-- The name inside a module; the empty module adds nothing. -/
def qualify (module name : String) : String :=
  if module.isEmpty then name else module ++ "." ++ name

/-- What follows the last dot. -/
def simple (name : String) : String :=
  String.ofList (name.toList.reverse.takeWhile (· != '.')).reverse

/-- What precedes the last dot; empty for a name without dots. -/
def moduleOf (name : String) : String :=
  String.ofList ((name.toList.reverse.dropWhile (· != '.')).drop 1).reverse

def isDotted (name : String) : Bool := name.toList.contains '.'

/-- The name with a capital first letter, which may take several characters. -/
def capitalize (name : String) : String :=
  match name.toList with
  | [] => ""
  | first :: rest => String.ofList (Unicode.toUpper first ++ rest)

/-- The name with a small first letter. -/
def uncapitalize (name : String) : String :=
  match name.toList with
  | [] => ""
  | first :: rest => String.ofList (Unicode.toLower first ++ rest)

end Fixture.Name

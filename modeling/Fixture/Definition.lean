import Fixture.Ty.Basic

/-!
# Definitions

What a catalogue says about one type: a composite with its generic parameters and properties, or an
enumeration with its members. Parameters, properties and members keep the order in which they were
declared.
-/

namespace Fixture

/-- A property with the methods that read and write it; one without a writer is read-only. -/
structure Property where
  name : String
  ty : Ty
  reader : Option String
  writer : Option String
  deriving Inhabited, BEq

namespace Property

def beanReader (name : String) : String := "get" ++ Name.capitalize name

def beanWriter (name : String) : String := "set" ++ Name.capitalize name

/-- A property with the accessors of a bean. -/
def bean (name : String) (ty : Ty) : Property :=
  ⟨name, ty, some (beanReader name), some (beanWriter name)⟩

end Property

structure Composite where
  name : String
  module : String
  params : List String
  properties : List Property
  deriving Inhabited, BEq

namespace Composite

def qualifiedName (self : Composite) : String := Name.qualify self.module self.name

/-- The position of a declared parameter. -/
def positionOf? (self : Composite) (param : String) : Option Nat := self.params.idxOf? param

end Composite

structure Enumeration where
  name : String
  module : String
  members : List String
  deriving Inhabited, BEq

namespace Enumeration

def qualifiedName (self : Enumeration) : String := Name.qualify self.module self.name

end Enumeration

inductive Definition where
  | composite (composite : Composite)
  | enumeration (enumeration : Enumeration)
  deriving Inhabited, BEq

namespace Definition

def name : Definition → String
  | composite c => c.name
  | enumeration e => e.name

def module : Definition → String
  | composite c => c.module
  | enumeration e => e.module

def qualifiedName (self : Definition) : String := Name.qualify self.module self.name

@[simp] theorem qualifiedName_composite (c : Composite) :
    (composite c).qualifiedName = c.qualifiedName := rfl

@[simp] theorem qualifiedName_enumeration (e : Enumeration) :
    (enumeration e).qualifiedName = e.qualifiedName := rfl

end Definition

end Fixture

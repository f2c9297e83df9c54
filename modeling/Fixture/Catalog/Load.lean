import Fixture.Catalog.Basic
import Fixture.Catalog.Document

/-!
# Catalogues from documents

A document becomes a catalogue in two passes: every entry is turned into a definition, in order, and
then the definitions are inserted, in order. So a type text that cannot be read is found before any
name that is used twice.
-/

namespace Fixture

namespace PropertyEntry

/-- The property, with the plain names of declared parameters read as parameters. -/
def property (self : PropertyEntry) (params : List String) : Except Catalog.Flaw Property :=
  match Ty.parse self.ty with
  | .error flaw => .error (.badType self.ty flaw)
  | .ok ty =>
    let bean := Property.bean self.name (ty.bindParams params)
    .ok { bean with
      reader := self.reader.getD bean.reader
      writer := self.writer.getD bean.writer }

end PropertyEntry

namespace TypeEntry

/-- A dotted name without a module brings its module along. -/
def split (self : TypeEntry) : String × String :=
  if self.module.isEmpty && Name.isDotted self.name then
    (Name.moduleOf self.name, Name.simple self.name)
  else (self.module, self.name)

def definition (self : TypeEntry) : Except Catalog.Flaw Definition :=
  let (module, name) := self.split
  match self.properties, self.members with
  | some _, some _ => .error (.ambiguousKind (Name.qualify module name))
  | none, some members => .ok (.enumeration ⟨name, module, members⟩)
  | properties, none =>
    match (properties.getD []).mapM (·.property self.params) with
    | .error flaw => .error flaw
    | .ok properties => .ok (.composite ⟨name, module, self.params, properties⟩)

end TypeEntry

namespace Catalog

def ofDocument (document : Document) : Except Flaw Catalog :=
  match document.types.mapM (·.definition) with
  | .error flaw => .error flaw
  | .ok definitions =>
    match ofDefinitions definitions with
    | .error flaw => .error flaw
    | .ok catalog => .ok { catalog with settings := document.settings }

def ofJson (bytes : List UInt8) : Except Flaw Catalog :=
  match Document.ofJson bytes with
  | .error flaw => .error (.unreadable flaw)
  | .ok document => ofDocument document

end Catalog

end Fixture

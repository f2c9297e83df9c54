import Fixture.Catalog.Load
import Fixture.CommandLine.Arguments
import Fixture.Description
import Fixture.Files.Expand

/-!
# Running a command

Both commands begin with the catalogue: the patterns are expanded in order, each file is read and
loaded, and the parts are merged. What follows is a generation or a list or description of types. A
run changes the volume only by writing the text of a generation that succeeded.
-/

namespace Fixture.CommandLine

open Files (Volume Refusal)

/-- Why a command fails. -/
inductive Trouble where
  | unexpanded (setback : Files.Setback)
  | noMatch (pattern : String)
  | unreadable (path : String) (refusal : Refusal)
  | unloadable (path : String) (flaw : Catalog.Flaw)
  | unmergeable (path : String) (flaw : Catalog.Flaw)
  | notGenerated (root : String) (failure : Failure)
  | noFolder (path : String) (refusal : Refusal)
  | unwritable (path : String) (refusal : Refusal)
  | badExpression (flaw : Catalog.Flaw)
  | notDescribed (expression : String) (obstacle : Obstacle)

namespace Trouble

/-- What failed and why, from the outside in. -/
def message : Trouble → String
  | unexpanded setback => setback.message
  | noMatch pattern => s!"glob pattern matched no files: {pattern}"
  | unreadable path refusal => s!"failed to read catalogue file ({path}): " ++ refusal.message
  | unloadable path flaw => s!"failed to load catalogue file ({path}): " ++ flaw.message
  | unmergeable path flaw => s!"failed to merge catalogue file ({path}): " ++ flaw.message
  | notGenerated root failure =>
    Outcome.summary root ++ ": " ++ failure.message ++ ": " ++ failure.obstacle.message
  | noFolder path refusal => s!"failed to create {path}: " ++ refusal.message
  | unwritable path refusal => s!"failed to write {path}: " ++ refusal.message
  | badExpression flaw => flaw.message
  | notDescribed expression obstacle => s!"cannot describe `{expression}`: " ++ obstacle.message

end Trouble

/-- How a run ended: what it printed, the volume it left, and what went wrong. -/
structure Report where
  printed : String := ""
  files : Volume
  trouble : Option Trouble := none

namespace Report

def exitCode (self : Report) : Nat := if self.trouble.isSome then 1 else 0

end Report

/-- The files that patterns stand for, in the order of the patterns; a text without open marks
stands for itself. -/
def expandAll (files : Volume) : List String → Except Trouble (List String)
  | [] => .ok []
  | pattern :: rest =>
    if Files.isPattern pattern then
      match Files.expand files pattern with
      | .error setback => .error (.unexpanded setback)
      | .ok [] => .error (.noMatch pattern)
      | .ok paths => (expandAll files rest).map (paths ++ ·)
    else (expandAll files rest).map (pattern :: ·)

/-- A catalogue with the types of further files. -/
def loadAll (files : Volume) (catalog : Catalog) : List String → Except Trouble Catalog
  | [] => .ok catalog
  | path :: rest =>
    match files.read path with
    | .error refusal => .error (.unreadable path refusal)
    | .ok content =>
      match Catalog.ofJson content with
      | .error flaw => .error (.unloadable path flaw)
      | .ok part =>
        match catalog.merge part with
        | (_, some flaw) => .error (.unmergeable path flaw)
        | (merged, none) => loadAll files merged rest

/-- The catalogue of all files that patterns stand for. -/
def loadCatalog (files : Volume) (patterns : List String) : Except Trouble Catalog := do
  loadAll files .empty (← expandAll files patterns)

/-- Settings with those of the command line in their places, and its ignored properties added. -/
def override (settings : Settings) (seed : Option Nat) (scope : Option String)
    (maxDepth : Option Nat) (ignored : List String) : Settings where
  seed := seed.or settings.seed
  scope := scope.or settings.scope
  ignored := settings.ignored ++ ignored
  maxDepth := maxDepth.getD settings.maxDepth

/-- Writes a text to a file, in folders that are made where they are missing. -/
def writeText (files : Volume) (path text : String) : Report :=
  let (folder, refusal) :=
    match Files.parent? path with
    | none => (files, none)
    | some parent =>
      let (made, refusal) := files.createFolders parent
      (made, refusal.map (Trouble.noFolder parent))
  match refusal with
  | some trouble => { files := folder, trouble := some trouble }
  | none =>
    match folder.write path text.toUTF8.toList with
    | .ok written => { files := written }
    | .error refusal => { files := folder, trouble := some (.unwritable path refusal) }

/-- The listing of a catalogue: qualified names, one in a line. -/
def listing (catalog : Catalog) : String :=
  String.join (catalog.definitions.map fun definition => definition.qualifiedName ++ "\n")

/-- Describes the type that an expression spells. -/
def describeText (catalog : Catalog) (expression : String) : Except Trouble String :=
  match Ty.parse expression with
  | .error flaw => .error (.badExpression (.badType expression flaw))
  | .ok ty =>
    match catalog.description ty with
    | .error obstacle => .error (.notDescribed expression obstacle)
    | .ok text => .ok text

/-- Runs a command. The supply is used where no seed is in force. -/
def run (files : Volume) (supply : Supply) : Invocation → Report
  | .generate catalogs root seed scope maxDepth ignored out =>
    match loadCatalog files catalogs with
    | .error trouble => { files, trouble := some trouble }
    | .ok catalog =>
      let settings := override catalog.settingsInForce seed scope maxDepth ignored
      let delivery := catalog.deliver Printer .builtin settings (settings.supply supply) root
      match delivery.result, out with
      | .error failure, _ =>
        { printed := delivery.sink.text, files, trouble := some (.notGenerated root failure) }
      | .ok _, none => { printed := delivery.sink.text, files }
      | .ok _, some path => writeText files path delivery.sink.text
  | .types catalogs described =>
    match loadCatalog files catalogs with
    | .error trouble => { files, trouble := some trouble }
    | .ok catalog =>
      match described with
      | none => { printed := listing catalog, files }
      | some expression =>
        match describeText catalog expression with
        | .error trouble => { files, trouble := some trouble }
        | .ok text => { printed := text, files }

end Fixture.CommandLine

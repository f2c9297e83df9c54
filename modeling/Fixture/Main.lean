import Fixture.CommandLine.Run
import Std.Time.DateTime.Timestamp

/-!
# The program

Reads the part of the file system that a command line speaks of, runs the command on it, writes what
the run has written, and reports.
-/

namespace Fixture.Program

open Fixture.CommandLine

/-- Usage texts, in one line each. -/
def usageText : Usage → String
  | .help => "usage: fixture generate|types --catalog FILE.. [OPTIONS]"
  | .helpWithoutCommand => "a command is required: generate or types"
  | .missingOption => "a required option is missing"
  | .unknownCommand => "there is no such command"
  | .unknownArgument => "there is no such argument here"
  | .missingValue => "a value is required for an option"
  | .unusedValue => "a value is not expected here"
  | .badValue => "a value is not a whole number of 64 bits"
  | .repeatedOption => "an option cannot be used several times"

/-- The names on the way to a path, with dots resolved. -/
def placeOf (current : Files.Place) (path : String) : Files.Place :=
  (Files.Volume.names path).foldl (fun place name =>
    if name == "" || name == "." then place
    else if name == ".." then place.dropLast
    else place ++ [name]) (if path.startsWith "/" then [] else current)

def pathOf (place : Files.Place) : String := "/" ++ "/".intercalate place

/-- Looks at one entry, and into a folder if so asked. -/
partial def look (deep : Bool) (files : Files.Volume) (place : Files.Place) :
    IO Files.Volume := do
  let here ← IO.currentDir
  let path := here / pathOf place
  if ← path.isDir then
    let files := files.addFolder place
    if deep then
      let entries ← path.readDir
      entries.foldlM (fun files entry => look true files (place ++ [entry.fileName])) files
    else return files
  else if ← path.pathExists then
    return files.addFile place (← IO.FS.readBinFile path).toList
  else return files

/-- Looks at every entry on the way to a path. -/
def lookAlong (files : Files.Volume) (place : Files.Place) : IO Files.Volume :=
  ((List.range (place.length + 1)).map place.take).foldlM (look false) files

/-- The folder in front of the first open name of a pattern. -/
def fixedPart (pattern : String) : String :=
  "/".intercalate ((pattern.splitOn "/").takeWhile fun name => !Files.isPattern name)

/-- The part of the file system that a command speaks of. -/
def lookFor (current : Files.Place) : Invocation → IO Files.Volume
  | .generate catalogs _ _ _ _ _ out => do
    let files ← catalogs.foldlM lookCatalog (Files.Volume.inFolder current)
    match out with
    | none => return files
    | some path => lookAlong files (placeOf current path)
  | .types catalogs _ => catalogs.foldlM lookCatalog (Files.Volume.inFolder current)
where
  lookCatalog (files : Files.Volume) (pattern : String) : IO Files.Volume := do
    if Files.isPattern pattern then
      let fixed := fixedPart pattern
      let fixed := if fixed.isEmpty && pattern.startsWith "/" then "/" else fixed
      let place := placeOf current fixed
      look true (← lookAlong files place) place
    else lookAlong files (placeOf current pattern)

/-- Makes the folders and writes the files that a run has added. -/
def store (before after : Files.Volume) : IO Unit := do
  let here ← IO.currentDir
  for (place, entry) in after.root.all do
    match entry, before.root.at? place with
    | .folder _, some (.folder _) => pure ()
    | .folder _, _ => IO.FS.createDirAll (here / pathOf place)
    | .file content, some (.file old) =>
      if content != old then IO.FS.writeBinFile (here / pathOf place) ⟨content.toArray⟩
    | .file content, _ => IO.FS.writeBinFile (here / pathOf place) ⟨content.toArray⟩

/-- The supply of the present moment. -/
def presentSupply : IO Supply := do
  let now ← Std.Time.Timestamp.now
  let nanos := now.toNanosecondsSinceUnixEpoch.toInt
  return ⟨.seeded (nanos % Nat.pow 2 64).toNat, .after 0 nanos⟩

end Fixture.Program

open Fixture Fixture.CommandLine Fixture.Program in
def main (args : List String) : IO UInt32 := do
  match Invocation.ofArguments args with
  | .error usage =>
    if usage == .help then IO.println (usageText usage) else IO.eprintln (usageText usage)
    return usage.exitCode.toUInt32
  | .ok invocation =>
    let current := placeOf [] (← IO.currentDir).toString
    let files ← lookFor current invocation
    let report := run files (← presentSupply) invocation
    IO.print report.printed
    store files report.files
    match report.trouble with
    | none => pure ()
    | some trouble => IO.eprintln ("error: " ++ trouble.message)
    return report.exitCode.toUInt32

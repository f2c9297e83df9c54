import Fixture.Files.Pattern
import Fixture.Files.Volume

/-!
# Paths that a pattern stands for

The names of a pattern are followed through a volume one after another. A fixed name is looked up,
an open one is compared with the entries of the folder in the order of their names, and two stars
with all folders below in the same order, each before what lies in it.
-/

namespace Fixture.Files

/-- The path is written as the folder where relative paths begin. -/
def isHere (path : String) : Bool :=
  match path.splitOn "/" with
  | "." :: rest => rest.all fun name => name == "" || name == "."
  | _ => false

/-- An entry of a folder; the folder itself is not written where relative paths begin. -/
def inside (path name : String) : String := if isHere path then name else join path name

/-- A path met on the way. An entry of a folder is known to be a folder or not from the folder's
list, even where its path is too long to be used. -/
structure Found where
  path : String
  isFolder : Bool

/-- A path that is looked up. -/
def Found.lookUp (files : Volume) (path : String) : Found := ⟨path, files.isFolder path⟩

/-- Why a pattern cannot be expanded. -/
inductive Setback where
  | badPattern (flaw : Pattern.Flaw)
  /-- A folder whose entries cannot be listed. -/
  | unlisted (path : String) (refusal : Refusal)

namespace Setback

def message : Setback → String
  | badPattern flaw => flaw.message
  | unlisted path refusal =>
    s!"attempting to read `{path}` resulted in an error: " ++ refusal.message

end Setback

/-- The folder at a path, to be listed. -/
def listed (files : Volume) (path : String) : Except Setback Folder :=
  match files.resolve path with
  | .ok (.folder inside) => .ok inside
  | .ok (.file _) => .error (.unlisted path .notFolder)
  | .error refusal => .error (.unlisted path refusal)

/-- The entries of a folder with their names. -/
def entriesOf (files : Volume) (path : String) : Except Setback (List (Found × String)) := do
  let folder ← listed files path
  return folder.entries.map fun (name, entry) => (⟨inside path name, entry.isFolder⟩, name)

/-- Gathers what a visit of everything below a folder gives, each entry before what lies in it. A
folder is listed only after it has been visited, so a setback of the visit comes before one of the
list. -/
def gatherBelow (visit : Found → String → Except Setback (List String)) (path : String) :
    Folder → Except Setback (List String)
  | .empty => .ok []
  | .file name _ rest => do
    let here ← visit ⟨inside path name, false⟩ name
    return here ++ (← gatherBelow visit path rest)
  | .folder name content rest => do
    let found : Found := ⟨inside path name, true⟩
    let here ← visit found name
    if let some refusal := Volume.unusable? found.path then throw (.unlisted found.path refusal)
    let below ← gatherBelow visit found.path content
    return here ++ below ++ (← gatherBelow visit path rest)

/-- A setback of the visit of a folder comes before everything that the folder's list could
bring. -/
theorem gatherBelow_folder_of_error {visit : Found → String → Except Setback (List String)}
    {path name : String} {setback : Setback}
    (h : visit ⟨inside path name, true⟩ name = .error setback) (content rest : Folder) :
    gatherBelow visit path (.folder name content rest) = .error setback := by
  rw [gatherBelow]
  simp only [h]
  rfl

/-- A file in which the visit finds nothing makes no difference. -/
theorem gatherBelow_file {visit : Found → String → Except Setback (List String)}
    {path name : String} (h : visit ⟨inside path name, false⟩ name = .ok []) (content : List UInt8)
    (rest : Folder) :
    gatherBelow visit path (.file name content rest) = gatherBelow visit path rest := by
  rw [gatherBelow]
  simp only [h, bind, Except.bind, pure, Except.pure, List.nil_append]
  cases gatherBelow visit path rest <;> rfl

/-- The paths that the names of a pattern stand for from a path on; folders only, if so asked. -/
def follow (files : Volume) (foldersOnly : Bool) :
    List Pattern → Found → Except Setback (List String)
  | [], found => .ok (if !foldersOnly || found.isFolder then [found.path] else [])
  | pattern :: rest, found =>
    match pattern.literal? with
    | some name =>
      let next := Found.lookUp files (inside found.path name)
      let isThere :=
        if name == "." || name == ".." then found.isFolder else files.exists? next.path
      if isThere then follow files foldersOnly rest next else .ok []
    | none =>
      if !found.isFolder then .ok []
      else if pattern.isAnyFolders then
        match h : rest.dropWhile Pattern.isAnyFolders with
        | [] => do
          let visit entry _ := .ok (if entry.isFolder then [entry.path] else [])
          gatherBelow visit found.path (← listed files found.path)
        | next :: others =>
          have : others.length < rest.length := by
            have := (List.dropWhile_suffix Pattern.isAnyFolders (l := rest)).length_le
            rw [h] at this
            simp only [List.length_cons] at this
            omega
          do
            let visit entry name :=
              if next.covers name.toList then follow files foldersOnly others entry else .ok []
            gatherBelow visit found.path (← listed files found.path)
      else do
        let special := if pattern.head? == some (.char '.') then ["..", "."] else []
        let entries ← entriesOf files found.path
        let all := (special.map fun name => (Found.lookUp files (join found.path name), name)) ++ entries
        let matching := all.filter fun entry => pattern.covers entry.2.toList
        return (← matching.mapM fun entry => follow files foldersOnly rest entry.1).flatten
termination_by patterns => patterns.length

/-- The names of a path; a slash at the end ends the last one. -/
def patternNames (text : String) : List String :=
  let names := text.splitOn "/"
  if names.getLast? == some "" then names.dropLast else names

/-- A pattern with its mistakes as setbacks. -/
def readPattern (text : String) : Except Setback Pattern :=
  (Pattern.ofText text).mapError .badPattern

/-- The paths that a pattern stands for. -/
def expand (files : Volume) (text : String) : Except Setback (List String) := do
  let _ ← readPattern text
  let isAbsolute := text.startsWith "/"
  let names := patternNames text
  let patterns ← (if isAbsolute then names.drop 1 else names).mapM readPattern
  follow files (text.endsWith "/") patterns (Found.lookUp files (if isAbsolute then "/" else "."))

/-- A text with any of the marks that leave a name open. -/
def isPattern (text : String) : Bool :=
  text.toList.any fun c => c == '*' || c == '?' || c == '[' || c == '\x7b'

end Fixture.Files

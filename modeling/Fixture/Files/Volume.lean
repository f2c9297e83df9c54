import Fixture.Files.Folder

/-!
# A volume of files

Files and folders under one root, with a folder in it where relative paths begin. A path is followed
name by name the way an operating system does it, by a walker that remembers the folders behind it;
so going back up and putting something where the walker stands need no second search.
-/

namespace Fixture.Files

/-- Why an operation on a path is refused. -/
inductive Refusal where
  | notFound
  | alreadyExists
  | notFolder
  | isFolder
  | tooLong
  /-- The path holds the character that ends texts for the operating system. -/
  | holdsNul
  deriving DecidableEq

namespace Refusal

def message : Refusal → String
  | notFound => "No such file or directory (os error 2)"
  | alreadyExists => "File exists (os error 17)"
  | notFolder => "Not a directory (os error 20)"
  | isFolder => "Is a directory (os error 21)"
  | tooLong => "File name too long (os error 36)"
  | holdsNul => "file name contained an unexpected NUL byte"

end Refusal

/-- A walker in a volume: what it stands on, and the way back to the root, each folder with the name
that was taken in it. -/
structure Walker where
  entry : Entry
  behind : List (String × Folder)

namespace Walker

/-- The bytes that a name may have. -/
def longestName : Nat := 255

/-- One name further on. -/
def step (self : Walker) (name : String) : Except Refusal Walker :=
  match self.entry with
  | .file _ => .error .notFolder
  | .folder inside =>
    if name == "" || name == "." then .ok self
    else if name == ".." then
      match self.behind with
      | [] => .ok self
      | (_, above) :: further => .ok ⟨.folder above, further⟩
    else if longestName < name.utf8ByteSize then .error .tooLong
    else
      match inside.find? name with
      | some entry => .ok ⟨entry, (name, inside) :: self.behind⟩
      | none => .error .notFound

/-- All names further on. -/
def walk (self : Walker) (names : List String) : Except Refusal Walker := names.foldlM step self

/-- The folder that the walker stands on. -/
def inside (self : Walker) : Except Refusal Folder :=
  match self.entry with
  | .folder inside => .ok inside
  | .file _ => .error .notFolder

/-- The root once the folder at the end of the way has become another. -/
def rootWith (inside : Folder) : List (String × Folder) → Folder
  | [] => inside
  | (name, above) :: further => rootWith (above.put name (.folder inside)) further

end Walker

structure Volume where
  root : Folder
  /-- The folder where relative paths begin. -/
  current : Place

namespace Volume

/-- The volume that holds nothing but the folder where relative paths begin. -/
def inFolder (current : Place) : Volume := ⟨Folder.empty.addFolder current, current⟩

def addFile (self : Volume) (place : Place) (content : List UInt8) : Volume :=
  { self with root := self.root.addFile content place }

def addFolder (self : Volume) (place : Place) : Volume :=
  { self with root := self.root.addFolder place }

/-- The names between the slashes of a path. -/
def names (path : String) : List String := path.splitOn "/"

/-- The bytes that a path may have. -/
def longestPath : Nat := 4095

/-- Why no operation takes a path, whatever the volume holds. -/
def unusable? (path : String) : Option Refusal :=
  if path.toList.contains '\x00' then some .holdsNul
  else if path.isEmpty then some .notFound
  else if longestPath < path.utf8ByteSize then some .tooLong
  else none

/-- Where the names of a path begin: at the root if it starts with a slash. -/
def start (self : Volume) (path : String) : Except Refusal Walker :=
  Walker.walk ⟨.folder self.root, []⟩ (if path.startsWith "/" then [] else self.current)

/-- Follows a path to an existing entry. -/
def resolve (self : Volume) (path : String) : Except Refusal Entry := do
  if let some refusal := unusable? path then throw refusal
  let walker ← (← self.start path).walk (names path)
  return walker.entry

def exists? (self : Volume) (path : String) : Bool := (self.resolve path).toOption.isSome

def isFolder (self : Volume) (path : String) : Bool :=
  match self.resolve path with
  | .ok entry => entry.isFolder
  | .error _ => false

def read (self : Volume) (path : String) : Except Refusal (List UInt8) := do
  match ← self.resolve path with
  | .file content => .ok content
  | .folder _ => .error .isFolder

/-- Puts an entry into the folder on which a walker stands. -/
def putAt (self : Volume) (walker : Walker) (name : String) (entry : Entry) : Volume :=
  match walker.entry with
  | .folder inside => { self with root := Walker.rootWith (inside.put name entry) walker.behind }
  | .file _ => self

/-- Makes one folder, the last of the names on a path. A name that leads back to a folder stands for
one that exists. -/
def makeFolder (self : Volume) (path : String) (above : List String) (last : String) :
    Except Refusal Volume := do
  let walker ← (← self.start path).walk above
  let inside ← walker.inside
  if last == ".." then .error .alreadyExists
  else if Walker.longestName < last.utf8ByteSize then .error .tooLong
  else if (inside.find? last).isSome then .error .alreadyExists
  else .ok (self.putAt walker last (.folder .empty))

/-- Makes one folder if it is not there. -/
def ensureFolder (self : Volume) (path : String) (above : List String) (last : String) :
    Except Refusal Volume :=
  match self.makeFolder path above last with
  | .error .alreadyExists => do
    let walker ← (← self.start path).walk (above ++ [last])
    if walker.entry.isFolder then .ok self else .error .alreadyExists
  | result => result

/-- Makes the folders of the names on a path, the innermost first. Each is tried on its own; only
where it is not found are those above it made, and then it is tried once more. -/
def ensureFolders (self : Volume) (path : String) : List String → Volume × Option Refusal
  | [] => (self, none)
  | last :: above =>
    match self.ensureFolder path above.reverse last with
    | .ok made => (made, none)
    | .error .notFound =>
      match self.ensureFolders path above with
      | (made, some refusal) => (made, some refusal)
      | (made, none) =>
        match made.ensureFolder path above.reverse last with
        | .ok all => (all, none)
        | .error refusal => (made, some refusal)
    | .error refusal => (self, some refusal)

/-- Makes every folder on a path that does not exist. -/
def createFolders (self : Volume) (path : String) : Volume × Option Refusal :=
  match (names path).filter fun name => name != "" && name != "." with
  | [] => (self, none)
  | moving =>
    match unusable? path with
    | some refusal => (self, some refusal)
    | none => self.ensureFolders path moving.reverse

/-- Writes a file into an existing folder. A path that ends in a slash, or in a name that does not
move, can only mean a folder. -/
def write (self : Volume) (path : String) (content : List UInt8) : Except Refusal Volume := do
  if let some refusal := unusable? path then throw refusal
  let backwards := (names path).reverse
  match backwards.dropWhile (· == "") with
  | [] => .error .isFolder
  | last :: above =>
    let walker ← (← self.start path).walk above.reverse
    let inside ← walker.inside
    if backwards.head? == some "" || last == "." || last == ".." then .error .isFolder
    else if Walker.longestName < last.utf8ByteSize then .error .tooLong
    else
      match inside.find? last with
      | some (.folder _) => .error .isFolder
      | _ => .ok (self.putAt walker last (.file content))

end Volume

/-- A path followed by a name. -/
def join (path name : String) : String :=
  if path.isEmpty || path.endsWith "/" then path ++ name else path ++ "/" ++ name

/-- The path without its last name, if it has a name. -/
def parent? (path : String) : Option String :=
  match trimmed (path.splitOn "/").reverse with
  | [] => none
  | [""] => none
  | _ :: above =>
    match trimmed above with
    | [""] => some "/"
    | rest => some ("/".intercalate rest.reverse)
where
  /-- Names from the last to the first, without those at the end that do not move; the first name
  always counts. -/
  trimmed : List String → List String
    | [] => []
    | [first] => [first]
    | last :: above => if last == "" || last == "." then trimmed above else last :: above

end Fixture.Files

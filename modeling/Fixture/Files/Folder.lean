/-!
# Folders

The entries of a folder, in the order of their names: files with their content and folders with
their own entries. An entry below a folder is known by its place, the names on the way to it.
-/

namespace Fixture.Files

/-- The names on the way to an entry. -/
abbrev Place := List String

inductive Folder where
  | empty
  | file (name : String) (content : List UInt8) (rest : Folder)
  | folder (name : String) (inside rest : Folder)
  deriving Inhabited

inductive Entry where
  | file (content : List UInt8)
  | folder (inside : Folder)

namespace Entry

def isFolder : Entry → Bool
  | file _ => false
  | folder _ => true

/-- The entry under a name, in front of others. -/
def named (name : String) (rest : Folder) : Entry → Folder
  | file content => .file name content rest
  | folder inside => .folder name inside rest

end Entry

namespace Folder

/-- The entry of a name. -/
def find? (name : String) : Folder → Option Entry
  | empty => none
  | file other content rest => if other == name then some (.file content) else find? name rest
  | folder other inside rest => if other == name then some (.folder inside) else find? name rest

/-- The folder of a name; an empty one if there is none. -/
def inside (name : String) (self : Folder) : Folder :=
  match self.find? name with
  | some (.folder inside) => inside
  | _ => empty

/-- Gives a name another entry, or a new name an entry in the place that the order gives it. -/
def put (name : String) (entry : Entry) : Folder → Folder
  | empty => entry.named name empty
  | file other content rest =>
    if other == name then entry.named name rest
    else if name < other then entry.named name (file other content rest)
    else file other content (put name entry rest)
  | folder other inside rest =>
    if other == name then entry.named name rest
    else if name < other then entry.named name (folder other inside rest)
    else folder other inside (put name entry rest)

theorem find?_named_self (name : String) (entry : Entry) (rest : Folder) :
    (entry.named name rest).find? name = some entry := by
  cases entry <;> simp [Entry.named, find?]

theorem find?_named_of_ne {name other : String} (h : name ≠ other) (entry : Entry)
    (rest : Folder) : (entry.named name rest).find? other = rest.find? other := by
  cases entry <;> simp [Entry.named, find?, h]

@[simp] theorem find?_put_self (name : String) (entry : Entry) (self : Folder) :
    (self.put name entry).find? name = some entry := by
  induction self with
  | empty => exact find?_named_self name entry empty
  | file other content rest ih =>
    rw [put]
    by_cases hother : other = name
    · rw [if_pos (by simp [hother]), find?_named_self]
    · rw [if_neg (by simp [hother])]
      by_cases hless : name < other
      · rw [if_pos hless, find?_named_self]
      · rw [if_neg hless, find?, if_neg (by simp [hother]), ih]
  | folder other inside rest _ ih =>
    rw [put]
    by_cases hother : other = name
    · rw [if_pos (by simp [hother]), find?_named_self]
    · rw [if_neg (by simp [hother])]
      by_cases hless : name < other
      · rw [if_pos hless, find?_named_self]
      · rw [if_neg hless, find?, if_neg (by simp [hother]), ih]

theorem find?_put_of_ne {name asked : String} (h : name ≠ asked) (entry : Entry)
    (self : Folder) : (self.put name entry).find? asked = self.find? asked := by
  induction self with
  | empty => exact find?_named_of_ne h entry empty
  | file other content rest ih =>
    rw [put]
    by_cases hother : other = name
    · rw [if_pos (by simp [hother]), find?_named_of_ne h, find?, if_neg (by simp [hother, h])]
    · rw [if_neg (by simp [hother])]
      by_cases hless : name < other
      · rw [if_pos hless, find?_named_of_ne h]
      · rw [if_neg hless, find?, find?, ih]
  | folder other inside rest _ ih =>
    rw [put]
    by_cases hother : other = name
    · rw [if_pos (by simp [hother]), find?_named_of_ne h, find?, if_neg (by simp [hother, h])]
    · rw [if_neg (by simp [hother])]
      by_cases hless : name < other
      · rw [if_pos hless, find?_named_of_ne h]
      · rw [if_neg hless, find?, find?, ih]

/-- The entry at a place below the folder. -/
def at? : Place → Folder → Option Entry
  | [], _ => none
  | [name], self => self.find? name
  | name :: rest, self =>
    match self.find? name with
    | some (.folder inside) => inside.at? rest
    | _ => none

/-- Makes a folder at a place, with the folders it lies in. -/
def addFolder : Place → Folder → Folder
  | [], self => self
  | name :: rest, self => self.put name (.folder ((self.inside name).addFolder rest))

/-- Puts a file at a place, with the folders it lies in. -/
def addFile (content : List UInt8) : Place → Folder → Folder
  | [], self => self
  | [name], self => self.put name (.file content)
  | name :: rest, self => self.put name (.folder ((self.inside name).addFile content rest))

/-- The entries of the folder itself. -/
def entries : Folder → List (String × Entry)
  | empty => []
  | file name content rest => (name, .file content) :: entries rest
  | folder name inside rest => (name, .folder inside) :: entries rest

/-- Everything below the folder, each folder before what lies in it. -/
def all : Folder → List (Place × Entry)
  | empty => []
  | file name content rest => ([name], .file content) :: all rest
  | folder name inside rest =>
    ([name], .folder inside) ::
      ((all inside).map (fun entry => (name :: entry.1, entry.2)) ++ all rest)

end Folder

end Fixture.Files

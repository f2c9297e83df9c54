import Fixture.Proofs.Files.Places

/-!
# What a write changes

Making folders changes no file, whether it succeeds or not. Writing changes one file, that to which
the path leads afterwards, and leaves every other as it was.
-/

namespace Fixture.Files

open Walker

namespace Volume

/-- What the file at a place holds, if there is one. -/
def fileAt? (self : Volume) (place : Place) : Option (List UInt8) :=
  (self.root.at? place).bind Entry.content?

theorem fileAt?_eq (self : Volume) (place : Place) :
    self.fileAt? place = ((Entry.folder self.root).at? place).bind Entry.content? := by
  cases place with
  | nil => rfl
  | cons name rest => rw [fileAt?, Folder.at?_eq (List.cons_ne_nil _ _)]

/-- All files are as they were, and folders are where folders were. -/
structure Keeps (before after : Volume) : Prop where
  current : after.current = before.current
  files : ∀ place, after.fileAt? place = before.fileAt? place
  folders : FoldersKept before.root after.root

namespace Keeps

theorem refl (files : Volume) : files.Keeps files := ⟨rfl, fun _ => rfl, fun _ inside h => ⟨inside, h⟩⟩

theorem trans {first second third : Volume} (h : first.Keeps second) (h' : second.Keeps third) :
    first.Keeps third where
  current := h'.current.trans h.current
  files place := (h'.files place).trans (h.files place)
  folders place inside hinside := by
    obtain ⟨middle, hmiddle⟩ := h.folders place inside hinside
    exact h'.folders place middle hmiddle

end Keeps

/-- A path leads to a place. -/
structure Leads (files : Volume) (path : String) (place : Place) : Prop where
  usable : unusable? path = none
  way : ∃ start walker, files.start path = .ok start ∧ start.walk (names path) = .ok walker ∧
    walker.place = place

/-- A path is read as a content, which is that of the file to which it leads, and every other file is
as it was. -/
def WrittenTo (before after : Volume) (path : String) (content : List UInt8) : Prop :=
  after.read path = .ok content ∧
    ∃ place, after.Leads path place ∧ after.fileAt? place = some content ∧
      ∀ other, other ≠ place → after.fileAt? other = before.fileAt? other

theorem Keeps.writtenTo {before middle after : Volume} {path : String} {content : List UInt8}
    (h : before.Keeps middle) (hwritten : middle.WrittenTo after path content) :
    before.WrittenTo after path content := by
  obtain ⟨hread, place, hleads, hfile, hothers⟩ := hwritten
  exact ⟨hread, place, hleads, hfile, fun other hother =>
    (hothers other hother).trans (h.files other)⟩

variable {files made written : Volume} {path last : String} {above : List String}
  {content : List UInt8}

theorem start_in {walker : Walker} (h : files.start path = .ok walker) : In files.root walker :=
  In.start.walk h

theorem inside_ok {walker : Walker} {inside : Folder} (h : walker.inside = .ok inside) :
    walker = ⟨.folder inside, walker.behind⟩ := by
  obtain ⟨_ | other, behind⟩ := walker <;> cases h
  rfl

theorem putAt_folder (inside : Folder) (behind : List (String × Folder)) (name : String)
    (entry : Entry) : files.putAt ⟨.folder inside, behind⟩ name entry =
      ⟨rootWith (inside.put name entry) behind, files.current⟩ := rfl

theorem makeFolder_ok (h : files.makeFolder path above last = .ok made) :
    ∃ inside behind, In files.root ⟨.folder inside, behind⟩ ∧ inside.find? last = none ∧
      made = ⟨rootWith (inside.put last (.folder .empty)) behind, files.current⟩ := by
  unfold makeFolder at h
  obtain ⟨start, hstart, h⟩ := bind_eq_ok.1 h
  obtain ⟨walker, hwalker, h⟩ := bind_eq_ok.1 h
  obtain ⟨inside, hinside, h⟩ := bind_eq_ok.1 h
  have hin : In files.root walker := (start_in hstart).walk hwalker
  rw [inside_ok hinside] at hin h
  split at h
  · cases h
  · split at h
    · cases h
    · split at h
      · cases h
      · next hnone =>
        cases h
        exact ⟨inside, walker.behind, hin, by simpa using hnone, putAt_folder ..⟩

/-- A name that can be that of a file. -/
structure FileName (name : String) : Prop where
  notEmpty : name ≠ ""
  notHere : name ≠ "."
  notBack : name ≠ ".."
  size : name.utf8ByteSize ≤ longestName

theorem eq_concat_of_dropWhile {all rest : List String}
    (h : all.reverse.dropWhile (· == "") = last :: rest) (hlast : all.reverse.head? ≠ some "") :
    all = rest.reverse ++ [last] ∧ last ≠ "" := by
  cases hall : all.reverse with
  | nil =>
    rw [hall] at h
    cases h
  | cons first others =>
    have hne : first ≠ "" := by simpa [hall] using hlast
    rw [hall, List.dropWhile_cons_of_neg (by simpa using hne)] at h
    cases h
    exact ⟨by rw [← List.reverse_reverse all, hall, List.reverse_cons], hne⟩

theorem write_ok (h : files.write path content = .ok written) :
    unusable? path = none ∧ ∃ above last start inside behind,
      names path = above ++ [last] ∧ FileName last ∧ files.start path = .ok start ∧
        start.walk above = .ok ⟨.folder inside, behind⟩ ∧
        (∀ folder, inside.find? last ≠ some (.folder folder)) ∧
        written = ⟨rootWith (inside.put last (.file content)) behind, files.current⟩ := by
  unfold write at h
  cases hunusable : unusable? path with
  | some refusal =>
    rw [hunusable] at h
    cases h
  | none =>
    refine ⟨rfl, ?_⟩
    simp only [hunusable] at h
    split at h
    · cases h
    · next last above hlast =>
      obtain ⟨start, hstart, h⟩ := bind_eq_ok.1 h
      obtain ⟨walker, hwalker, h⟩ := bind_eq_ok.1 h
      obtain ⟨inside, hinside, h⟩ := bind_eq_ok.1 h
      rw [inside_ok hinside] at hwalker h
      split at h
      · cases h
      · next hplain =>
        split at h
        · cases h
        · next hsize =>
          split at h
          · cases h
          · next hfree =>
            cases h
            obtain ⟨⟨hend, hhere⟩, hback⟩ :
                ((names path).reverse.head? ≠ some "" ∧ last ≠ ".") ∧ last ≠ ".." := by
              simpa using hplain
            obtain ⟨hnames, hempty⟩ := eq_concat_of_dropWhile hlast hend
            exact ⟨above.reverse, last, start, inside, walker.behind, hnames,
              ⟨hempty, hhere, hback, Nat.not_lt.1 hsize⟩, hstart, hwalker,
              fun folder hfolder => hfree folder hfolder, putAt_folder ..⟩

section

variable {inside : Folder} {behind : List (String × Folder)} {name : String} {entry : Entry}

theorem at?_below (h : In files.root ⟨.folder inside, behind⟩)
    (hfree : ∀ folder, inside.find? name ≠ some (.folder folder)) {below : Place} (hne : below ≠ []) :
    (Entry.folder files.root).at? (Walker.place ⟨.folder inside, behind⟩ ++ name :: below) =
      none := by
  rw [Entry.at?_append, h.at?]
  show (inside.find? name).bind (Entry.at? below) = none
  cases below with
  | nil => exact absurd rfl hne
  | cons next rest =>
    rcases hfind : inside.find? name with _ | content | folder
    · rfl
    · rfl
    · exact absurd hfind (hfree folder)

theorem foldersKept_rootWith (h : In files.root ⟨.folder inside, behind⟩)
    (hfree : ∀ folder, inside.find? name ≠ some (.folder folder)) :
    FoldersKept files.root (rootWith (inside.put name entry) behind) := by
  intro place folder hfolder
  by_cases hbelow : Walker.place ⟨.folder inside, behind⟩ ++ [name] <+: place
  · exfalso
    obtain ⟨below, rfl⟩ := hbelow
    by_cases hnil : below = []
    · rw [hnil, List.append_nil, h.at?_concat] at hfolder
      exact hfree folder hfolder
    · rw [List.append_assoc, List.singleton_append, at?_below h hfree hnil] at hfolder
      cases hfolder
  · have halike : Entry.Alike ((Entry.folder files.root).at? place)
        ((Entry.folder (rootWith (inside.put name entry) behind)).at? place) :=
      alike_rootWith h hbelow
    rw [hfolder] at halike
    exact halike.exists_folder

theorem fileAt?_rootWith_self (h : In files.root ⟨.folder inside, behind⟩) :
    fileAt? ⟨rootWith (inside.put name entry) behind, files.current⟩
      (Walker.place ⟨.folder inside, behind⟩ ++ [name]) = entry.content? := by
  rw [fileAt?_eq, at?_rootWith h]
  rfl

/-- A new entry with nothing below changes no other file, if it takes the place of no folder. -/
theorem fileAt?_rootWith_of_ne (h : In files.root ⟨.folder inside, behind⟩)
    (hfree : ∀ folder, inside.find? name ≠ some (.folder folder))
    (hentry : ∀ next rest, entry.at? (next :: rest) = none) {asked : Place}
    (hne : asked ≠ Walker.place ⟨.folder inside, behind⟩ ++ [name]) :
    fileAt? ⟨rootWith (inside.put name entry) behind, files.current⟩ asked =
      files.fileAt? asked := by
  rw [fileAt?_eq, fileAt?_eq]
  by_cases hbelow : Walker.place ⟨.folder inside, behind⟩ ++ [name] <+: asked
  · obtain ⟨below, rfl⟩ := hbelow
    have hnil : below ≠ [] := by
      rintro rfl
      exact hne (List.append_nil _)
    rw [List.append_assoc, List.singleton_append, at?_rootWith h, at?_below h hfree hnil]
    cases below with
    | nil => exact absurd rfl hnil
    | cons next rest => rw [hentry]
  · exact (alike_rootWith h hbelow).content?

end

/-! ### Making folders -/

theorem keeps_makeFolder (h : files.makeFolder path above last = .ok made) : files.Keeps made := by
  obtain ⟨inside, behind, hin, hnone, rfl⟩ := makeFolder_ok h
  have hfree : ∀ folder, inside.find? last ≠ some (.folder folder) := by simp [hnone]
  refine ⟨rfl, fun asked => ?_, foldersKept_rootWith hin hfree⟩
  by_cases hself : asked = Walker.place ⟨.folder inside, behind⟩ ++ [last]
  · rw [hself, fileAt?_rootWith_self hin, fileAt?_eq, hin.at?_concat, hnone]
    rfl
  · exact fileAt?_rootWith_of_ne hin hfree (fun _ _ => rfl) hself

theorem keeps_ensureFolder (h : files.ensureFolder path above last = .ok made) :
    files.Keeps made := by
  unfold ensureFolder at h
  split at h
  · obtain ⟨start, hstart, h⟩ := bind_eq_ok.1 h
    obtain ⟨walker, hwalker, h⟩ := bind_eq_ok.1 h
    split at h <;> cases h
    exact .refl files
  · exact keeps_makeFolder h

/-- Each folder that is made on the way keeps what was there, so all of them do, however far it
goes. -/
theorem keeps_ensureFolders (names : List String) :
    files.Keeps (files.ensureFolders path names).1 := by
  induction names with
  | nil => exact .refl files
  | cons last above ih =>
    rw [ensureFolders]
    split
    · next made hmade => exact keeps_ensureFolder hmade
    · split
      · next made refusal hmade =>
        rw [hmade] at ih
        exact ih
      · next made hmade =>
        rw [hmade] at ih
        split
        · next all hall => exact ih.trans (keeps_ensureFolder hall)
        · exact ih
    · exact .refl files

theorem keeps_createFolders : files.Keeps (files.createFolders path).1 := by
  unfold createFolders
  split
  · exact .refl files
  · split
    · exact .refl files
    · exact keeps_ensureFolders _

/-! ### Writing a file -/

theorem leads_rootWith {start : Walker} {inside : Folder} {behind : List (String × Folder)}
    (husable : unusable? path = none) (hnames : names path = above ++ [last])
    (hlast : FileName last) (hstart : files.start path = .ok start)
    (hwalk : start.walk above = .ok ⟨.folder inside, behind⟩)
    (hfree : ∀ folder, inside.find? last ≠ some (.folder folder)) :
    Leads ⟨rootWith (inside.put last (.file content)) behind, files.current⟩ path
      (Walker.place ⟨.folder inside, behind⟩ ++ [last]) := by
  have hin : In files.root ⟨.folder inside, behind⟩ := (start_in hstart).walk hwalk
  have hkept : FoldersKept files.root (rootWith (inside.put last (.file content)) behind) :=
    foldersKept_rootWith hin hfree
  obtain ⟨start', hstart', habreast⟩ :=
    (Abreast.start _ _).walk hkept hstart (folder_of_walk hwalk ⟨inside, rfl⟩)
  obtain ⟨⟨_, behind'⟩, hwalk', -, hright, hplace, inside', rfl⟩ :=
    habreast.walk hkept hwalk ⟨inside, rfl⟩
  have hfile : inside'.find? last = some (.file content) := by
    rw [← hright.at?_concat, ← hplace]
    exact at?_rootWith hin []
  refine ⟨husable, start', ⟨.file content, (last, inside') :: behind'⟩, hstart', ?_, ?_⟩
  · rw [hnames]
    exact walk_concat hwalk' (step_eq_ok.2
      (.enter hlast.notEmpty hlast.notHere hlast.notBack hlast.size hfile))
  · rw [place_cons _ (.folder inside'), hplace]

theorem read_of_leads {place : Place} (h : files.Leads path place)
    (hfile : files.fileAt? place = some content) : files.read path = .ok content := by
  obtain ⟨husable, start, walker, hstart, hwalk, rfl⟩ := h
  have hin : In files.root walker := (start_in hstart).walk hwalk
  rw [fileAt?_eq, hin.at?] at hfile
  have hentry : walker.entry = .file content := by
    cases hentry : walker.entry <;> simp_all [Entry.content?]
  have hresolve : files.resolve path = .ok walker.entry := by
    unfold resolve
    simp only [husable]
    exact bind_eq_ok.2 ⟨start, hstart, bind_eq_ok.2 ⟨walker, hwalk, rfl⟩⟩
  rw [read, hresolve, hentry]
  rfl

theorem writtenTo_of_write (h : files.write path content = .ok written) :
    files.WrittenTo written path content := by
  obtain ⟨husable, above, last, start, inside, behind, hnames, hlast, hstart, hwalk, hfree, rfl⟩ :=
    write_ok h
  have hin : In files.root ⟨.folder inside, behind⟩ := (start_in hstart).walk hwalk
  have hleads : Leads ⟨rootWith (inside.put last (.file content)) behind, files.current⟩ path
      (Walker.place ⟨.folder inside, behind⟩ ++ [last]) :=
    leads_rootWith husable hnames hlast hstart hwalk hfree
  have hfile : fileAt? ⟨rootWith (inside.put last (.file content)) behind, files.current⟩
      (Walker.place ⟨.folder inside, behind⟩ ++ [last]) = some content := fileAt?_rootWith_self hin
  refine ⟨read_of_leads hleads hfile, _, hleads, hfile, fun other hother => ?_⟩
  exact fileAt?_rootWith_of_ne hin hfree (fun _ _ => rfl) hother

end Volume

end Fixture.Files

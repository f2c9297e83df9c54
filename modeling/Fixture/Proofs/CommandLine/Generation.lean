import Fixture.Proofs.Catalog.Joined
import Fixture.Proofs.Catalog.Written
import Fixture.Proofs.Files.Paths
import Fixture.Proofs.Files.Writing

/-!
# Runs that generate

A run that generates goes through stages of which each can fail: the patterns are expanded, the files
are read, loaded and merged, the fixture is generated, and the text is written. A failure before the
last stage leaves the volume as it is; a failure of the last one leaves at most new folders.
-/

namespace Fixture.CommandLine

open Files (Volume)

/-- The paths that a pattern stands for, of which there are some; or the text itself, where no name
is left open. -/
inductive Expands (files : Volume) : String → List String → Prop
  | pattern {text : String} {paths : List String} (hopen : Files.isPattern text = true)
      (hpaths : Files.expand files text = .ok paths) (hsome : paths ≠ []) : Expands files text paths
  | plain {text : String} (hopen : Files.isPattern text = false) : Expands files text [text]

/-- Every pattern stands for files, the files hold documents, and these have a common catalogue, each
taken over by the catalogue of those before it. -/
def Loads (files : Volume) (patterns : List String) (catalog : Catalog) : Prop :=
  ∃ groups, List.Forall₂ (Expands files) patterns groups ∧
    ∃ documents, List.Forall₂ (Holds files) groups.flatten documents ∧
      Catalog.ofDocuments documents = .ok catalog

variable {files : Volume} {patterns paths : List String} {catalog : Catalog}

theorem expandAll_cons_ok_iff {text : String} {rest : List String} :
    expandAll files (text :: rest) = .ok paths ↔
      ∃ first others, Expands files text first ∧ expandAll files rest = .ok others ∧
        paths = first ++ others := by
  rw [expandAll]
  constructor
  · intro h
    split at h
    · next hopen =>
      split at h
      · cases h
      · cases h
      · next first hsome hfirst =>
        obtain ⟨others, hothers, rfl⟩ := map_eq_ok h
        exact ⟨first, others, .pattern hopen hfirst hsome, hothers, rfl⟩
    · next hopen =>
      obtain ⟨others, hothers, rfl⟩ := map_eq_ok h
      exact ⟨[text], others, .plain (by simpa using hopen), hothers, rfl⟩
  · rintro ⟨first, others, hfirst, hothers, rfl⟩
    cases hfirst with
    | pattern hopen hpaths hsome =>
      rw [if_pos hopen, hothers]
      cases first with
      | nil => exact absurd rfl hsome
      | cons => simp only [hpaths]; rfl
    | plain hopen =>
      rw [if_neg (by simp [hopen]), hothers]
      rfl

theorem expandAll_ok_iff : expandAll files patterns = .ok paths ↔
    ∃ groups, List.Forall₂ (Expands files) patterns groups ∧ paths = groups.flatten := by
  induction patterns generalizing paths with
  | nil => simp [expandAll, eq_comm]
  | cons text rest ih =>
    rw [expandAll_cons_ok_iff]
    constructor
    · rintro ⟨first, others, hfirst, hothers, rfl⟩
      obtain ⟨groups, hgroups, rfl⟩ := ih.1 hothers
      exact ⟨first :: groups, .cons hfirst hgroups, rfl⟩
    · rintro ⟨_, hgroups, rfl⟩
      cases hgroups with
      | @cons _ first _ groups hfirst hgroups =>
        exact ⟨first, groups.flatten, hfirst, ih.2 ⟨groups, hgroups, rfl⟩, rfl⟩

theorem loadCatalog_ok_iff : loadCatalog files patterns = .ok catalog ↔
    Loads files patterns catalog := by
  constructor
  · intro h
    obtain ⟨paths, hpaths, hloaded⟩ := bind_eq_ok.1 h
    obtain ⟨groups, hgroups, rfl⟩ := expandAll_ok_iff.1 hpaths
    exact ⟨groups, hgroups, loadAll_ok_iff.1 hloaded⟩
  · rintro ⟨groups, hgroups, hloaded⟩
    exact bind_eq_ok.2 ⟨_, expandAll_ok_iff.2 ⟨groups, hgroups, rfl⟩, loadAll_ok_iff.2 hloaded⟩

/-! ### The text in a file -/

/-- The text is written once the folders in front of the file are there, unless something refuses
it; making the folders changes no file. -/
theorem writeText_cases (files : Volume) (path text : String) :
    ∃ folder, files.Keeps folder ∧
      ((∃ trouble, writeText files path text = { files := folder, trouble := some trouble }) ∨
        ∃ written, folder.write path text.toUTF8.toList = .ok written ∧
          writeText files path text = { files := written }) := by
  cases hparent : Files.parent? path with
  | none =>
    refine ⟨files, .refl files, ?_⟩
    cases hwrite : files.write path text.toUTF8.toList with
    | error refusal =>
      exact .inl ⟨.unwritable path refusal, by simp only [writeText, hparent, hwrite]⟩
    | ok written => exact .inr ⟨written, rfl, by simp only [writeText, hparent, hwrite]⟩
  | some parent =>
    have hkeeps : files.Keeps (files.createFolders parent).1 := Volume.keeps_createFolders
    rcases hmade : files.createFolders parent with ⟨folder, refusal⟩
    rw [hmade] at hkeeps
    refine ⟨folder, hkeeps, ?_⟩
    cases refusal with
    | some refusal =>
      refine .inl ⟨.noFolder parent refusal, ?_⟩
      simp only [writeText, hparent, hmade, Option.map_some]
    | none =>
      cases hwrite : folder.write path text.toUTF8.toList with
      | error refusal =>
        refine .inl ⟨.unwritable path refusal, ?_⟩
        simp only [writeText, hparent, hmade, Option.map_none, hwrite]
      | ok written =>
        refine .inr ⟨written, rfl, ?_⟩
        simp only [writeText, hparent, hmade, Option.map_none, hwrite]

theorem writeText_spec (files : Volume) (path text : String) :
    let report := writeText files path text
    report.printed = "" ∧
      (report.exitCode = 0 ∧ files.WrittenTo report.files path text.toUTF8.toList ∨
        report.exitCode = 1 ∧ files.Keeps report.files) := by
  intro report
  have hreport : report = writeText files path text := rfl
  obtain ⟨folder, hkeeps, ⟨trouble, hrefused⟩ | ⟨written, hwrite, hwritten⟩⟩ :=
    writeText_cases files path text
  · rw [hreport, hrefused]
    exact ⟨rfl, .inr ⟨rfl, hkeeps⟩⟩
  · rw [hreport, hwritten]
    exact ⟨rfl, .inl ⟨rfl, hkeeps.writtenTo (Volume.writtenTo_of_write hwrite)⟩⟩

/-! ### The whole run -/

section

variable (files : Volume) (clock : Supply) (patterns : List String) (root : String)
  (seed : Option Nat) (scope : Option String) (maxDepth : Option Nat) (ignored : List String)

/-- What a run generates in a catalogue. -/
def generated (catalog : Catalog) : Delivery Printer :=
  let settings := override catalog.settingsInForce seed scope maxDepth ignored
  catalog.deliver Printer .builtin settings (settings.supply clock) root

variable {files patterns}

theorem run_of_not_loads (out : Option String)
    (h : ¬ ∃ catalog, Loads files patterns catalog) :
    ∃ trouble, run files clock (.generate patterns root seed scope maxDepth ignored out) =
      { files, trouble := some trouble } := by
  cases hload : loadCatalog files patterns with
  | ok catalog => exact absurd ⟨catalog, loadCatalog_ok_iff.1 hload⟩ h
  | error trouble => exact ⟨trouble, by rw [run, hload]⟩

variable {catalog : Catalog} (hloads : Loads files patterns catalog)

include hloads

theorem run_of_failure (out : Option String) {failure : Failure}
    (h : (generated clock root seed scope maxDepth ignored catalog).result = .error failure) :
    run files clock (.generate patterns root seed scope maxDepth ignored out) =
      { printed := (generated clock root seed scope maxDepth ignored catalog).sink.text, files,
        trouble := some (.notGenerated root failure) } := by
  rw [generated] at h
  simp only [run, loadCatalog_ok_iff.2 hloads, h, generated]

theorem run_of_success {target : String}
    (h : (generated clock root seed scope maxDepth ignored catalog).result = .ok target) :
    run files clock (.generate patterns root seed scope maxDepth ignored none) =
      { printed := (generated clock root seed scope maxDepth ignored catalog).sink.text, files } := by
  rw [generated] at h
  simp only [run, loadCatalog_ok_iff.2 hloads, h, generated]

theorem run_of_success_out (path : String) {target : String}
    (h : (generated clock root seed scope maxDepth ignored catalog).result = .ok target) :
    run files clock (.generate patterns root seed scope maxDepth ignored (some path)) =
      writeText files path (generated clock root seed scope maxDepth ignored catalog).sink.text := by
  rw [generated] at h
  simp only [run, loadCatalog_ok_iff.2 hloads, h, generated]

end

/-- A run that generates. Where the patterns do not lead to a catalogue, it fails, prints nothing and
leaves the volume as it is. Otherwise it generates the root in that catalogue, under the settings
that the catalogue brings along, with those of the command line in their places and its ignored
properties added. If the generation fails, so does the run: it prints what was generated up to there
and leaves the volume as it is. If it succeeds, the text is printed and the volume stays as it is; or
nothing is printed and the text is in the file that was asked for, while all other files are as they
were, unless the file cannot be written, and then the run fails and changes no file. With a seed in
force all this does not depend on the clock. -/
theorem run_generate (files : Volume) (clock : Supply) (patterns : List String) (root : String)
    (seed : Option Nat) (scope : Option String) (maxDepth : Option Nat) (ignored : List String)
    (out : Option String) :
    let report := run files clock (.generate patterns root seed scope maxDepth ignored out)
    ((¬ ∃ catalog, Loads files patterns catalog) →
      report.exitCode = 1 ∧ report.printed = "" ∧ report.files = files) ∧
    ∀ catalog, Loads files patterns catalog →
      let brought := catalog.settings.getD {}
      let settings : Settings :=
        { seed := seed.or brought.seed
          scope := scope.or brought.scope
          ignored := brought.ignored ++ ignored
          maxDepth := maxDepth.getD brought.maxDepth }
      let generation :=
        catalog.deliver Printer .builtin settings (settings.supply clock) root
      (∀ failure, generation.result = .error failure →
        report.exitCode = 1 ∧ report.printed = generation.sink.text ∧ report.files = files) ∧
      (∀ target, generation.result = .ok target →
        (out = none →
          report.exitCode = 0 ∧ report.printed = generation.sink.text ∧ report.files = files) ∧
        ∀ path, out = some path → report.printed = "" ∧
          (report.exitCode = 0 ∧
              files.WrittenTo report.files path generation.sink.text.toUTF8.toList ∨
            report.exitCode = 1 ∧ files.Keeps report.files)) ∧
      ∀ number, settings.seed = some number → settings.supply clock = .seeded number := by
  intro report
  constructor
  · intro hnone
    obtain ⟨trouble, hreport⟩ :=
      run_of_not_loads clock root seed scope maxDepth ignored out hnone
    have hreport : report = { files, trouble := some trouble } := hreport
    rw [hreport]
    exact ⟨rfl, rfl, rfl⟩
  intro catalog hloads brought settings generation
  refine ⟨?_, ?_, ?_⟩
  · intro failure hfailure
    have hreport : report =
        { printed := generation.sink.text, files, trouble := some (.notGenerated root failure) } :=
      run_of_failure clock root seed scope maxDepth ignored hloads out hfailure
    rw [hreport]
    exact ⟨rfl, rfl, rfl⟩
  · intro target htarget
    constructor
    · rintro rfl
      have hreport : report = { printed := generation.sink.text, files } :=
        run_of_success clock root seed scope maxDepth ignored hloads htarget
      rw [hreport]
      exact ⟨rfl, rfl, rfl⟩
    · rintro path rfl
      have hreport : report = writeText files path generation.sink.text :=
        run_of_success_out clock root seed scope maxDepth ignored hloads path htarget
      rw [hreport]
      exact writeText_spec files path generation.sink.text
  · intro number hnumber
    rw [Settings.supply, hnumber]

def roomsText : String :=
  "\x7b\"types\":[\x7b\"name\":\"Home\",\"properties\":[" ++
    "\x7b\"name\":\"rooms\",\"type\":\"int\"\x7d]\x7d]\x7d"

def roomsDocument : Document where
  types := [{ name := "Home", properties := some [{ name := "rooms", ty := "int" }] }]

def yardText : String :=
  "\x7b\"settings\":\x7b\"seed\":1\x7d,\"types\":[\x7b\"name\":\"Yard\",\"properties\":[" ++
    "\x7b\"name\":\"home\",\"type\":\"Home\"\x7d]\x7d]\x7d"

def yardDocument : Document where
  settings := some { seed := some 1 }
  types := [{ name := "Yard", properties := some [{ name := "home", ty := "Home" }] }]

def roomsCatalog : Catalog where
  definitions := [
    .composite ⟨"Yard", "", [], [.bean "home" (.named "Home")]⟩,
    .composite ⟨"Home", "", [], [.bean "rooms" (.named "int")]⟩]
  settings := some { seed := some 1 }

theorem writes_bean (name property ty : String) :
    TypeEntry.Writes { name, properties := some [{ name := property, ty }] }
      (.composite ⟨name, "", [], [.bean property (.named ty)]⟩) :=
  .composite rfl rfl rfl rfl
    (.cons ⟨rfl, ⟨Ty.noGap, rfl⟩, .inr ⟨rfl, rfl⟩, .inr ⟨rfl, rfl⟩⟩ .nil) rfl

theorem writable_bean {name property : String} {ty : Ty} (hnamed : name ≠ "")
    (hundotted : Name.isDotted name = false) (hty : ty.Writable []) :
    (Definition.composite ⟨name, "", [], [.bean property ty]⟩).Writable := by
  refine ⟨hnamed, hundotted, ?_⟩
  rintro _ ⟨⟩
  exact ⟨List.nodup_nil, List.nodup_singleton property, List.forall_mem_singleton.2 hty⟩

def twoFiles (first second : List UInt8) : Volume :=
  ((Volume.inFolder []).addFile ["c"] first).addFile ["d1"] second

def rooms : Volume := twoFiles yardText.toUTF8.toList roomsText.toUTF8.toList

theorem loads_rooms : Loads rooms ["c", "d*"] roomsCatalog := by
  have hread : Files.readPattern "d*" = .ok [.char 'd', .anyText] := by
    have hchars : "d*".toList = ['d', '*'] := by decide
    simp [Files.readPattern, Files.Pattern.ofText, hchars, Files.Pattern.tokens, Except.map,
      Except.mapError]
  have hpattern : Expands rooms "d*" ["d1"] := by
    refine .pattern (by decide) ?_ (List.cons_ne_nil _ _)
    rw [Files.expand_name (Files.resolve_dot rfl) (by decide) (by decide) hread rfl rfl rfl]
    rfl
  have hfirst : rooms.read "c" = .ok yardText.toUTF8.toList :=
    Files.read_of_find? rfl (by decide) (by decide) ⟨by decide, by decide, by decide, by decide⟩
      ((Files.Folder.find?_put_of_ne (by decide) _ _).trans (Files.Folder.find?_put_self ..))
  have hsecond : rooms.read "d1" = .ok roomsText.toUTF8.toList :=
    Files.read_of_find? rfl (by decide) (by decide) ⟨by decide, by decide, by decide, by decide⟩
      (Files.Folder.find?_put_self ..)
  have hyard : Document.ofJson yardText.toUTF8.toList = .ok yardDocument :=
    eq_ok_of_toOption (by decide +kernel)
  have hrooms : Document.ofJson roomsText.toUTF8.toList = .ok roomsDocument :=
    eq_ok_of_toOption (by decide +kernel)
  have hholds : List.Forall₂ (Holds rooms) ["c", "d1"] [yardDocument, roomsDocument] :=
    .cons ⟨_, hfirst, hyard⟩ (.cons ⟨_, hsecond, hrooms⟩ .nil)
  have hwrites : List.Forall₂ TypeEntry.Writes (yardDocument.types ++ roomsDocument.types)
      roomsCatalog.definitions :=
    .cons (writes_bean _ _ _) (.cons (writes_bean _ _ _) .nil)
  have hwritable : ∀ definition ∈ roomsCatalog.definitions, definition.Writable := by
    refine List.forall_mem_cons.2 ⟨?_, List.forall_mem_singleton.2 ?_⟩
    · exact writable_bean (by decide) (by decide) (.named (by decide) List.not_mem_nil)
    · exact writable_bean (by decide) (by decide) (.named (by decide) List.not_mem_nil)
  have hloaded : Catalog.ofDocuments [yardDocument, roomsDocument] = .ok roomsCatalog :=
    Catalog.ofDocuments_ok_iff.2 ⟨_, mapM_definition hwrites hwritable,
      Catalog.admits_of_writable hwritable (by decide), rfl⟩
  exact ⟨[["c"], ["d1"]], .cons (.plain (by decide)) (.cons hpattern .nil), _, hholds, hloaded⟩

def homeText : String :=
  "    final Yard yard = new Yard();\n    final Home home = new Home();\n" ++
    "    home.setRooms(59);\n\n    yard.setHome(home);\n\n"

theorem exitCode_writeText_rooms : (writeText rooms "o/t" homeText).exitCode = 0 := by
  have hfile : Volume.names "o/t" = ["o", "t"] := by
    rw [Volume.names, Files.splitOn_slash]
    decide
  have hfolder : Volume.names "o" = ["o"] := Files.splitOn_of_not_mem (by decide)
  have hparent : Files.parent? "o/t" = some "o" := by
    rw [Files.parent?, ← Volume.names, hfile]
    decide +kernel
  simp only [writeText, hparent, Volume.createFolders, hfolder, Volume.write, hfile]
  decide +kernel

theorem run_generate_rooms :
    let report := run rooms (.starting 5 0)
      (.generate ["c", "d*"] "Yard" (some 9) none (some 3) ["secret"] (some "o/t"))
    report.exitCode = 0 ∧ report.printed = "" ∧
      rooms.WrittenTo report.files "o/t" homeText.toUTF8.toList := by
  have hresult : (generated (.starting 5 0) "Yard" (some 9) none (some 3) ["secret"]
      roomsCatalog).result = .ok "yard" := eq_ok_of_toOption (by decide +kernel)
  have htext : (generated (.starting 5 0) "Yard" (some 9) none (some 3) ["secret"]
      roomsCatalog).sink.text = homeText := by decide +kernel
  have hexit := exitCode_writeText_rooms
  rw [← htext, ← run_of_success_out _ _ _ _ _ _ loads_rooms _ hresult] at hexit
  obtain ⟨-, hall⟩ := run_generate rooms (.starting 5 0) ["c", "d*"] "Yard" (some 9) none (some 3)
    ["secret"] (some "o/t")
  obtain ⟨-, hsuccess, -⟩ := hall roomsCatalog loads_rooms
  obtain ⟨-, hwritten⟩ := hsuccess "yard" hresult
  obtain ⟨hprinted, ⟨-, hfile⟩ | ⟨hrefused, -⟩⟩ := hwritten "o/t" rfl
  · rw [← htext, generated, override, Catalog.settingsInForce]
    exact ⟨hexit, hprinted, hfile⟩
  · rw [hexit] at hrefused
    cases hrefused

end Fixture.CommandLine

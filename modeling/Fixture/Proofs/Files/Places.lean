import Fixture.Files.Volume
import Fixture.Proofs.Except

/-!
# Places and walkers

A walker in a volume is told by its place alone: the folders behind it are those on the way, and it
stands on the entry at the end of the way. What is put where a walker stands changes the entries at
and below that place, and the folders on the way hold something else; every other entry is as it was.
-/

namespace Fixture.Files

namespace Entry

/-- The entry at a place below an entry, which is the entry itself if the place has no names. -/
def at? : Place → Entry → Option Entry
  | [], entry => some entry
  | _ :: _, file _ => none
  | name :: rest, folder inside => (inside.find? name).bind (at? rest)

@[simp] theorem at?_nil (entry : Entry) : entry.at? [] = some entry := rfl

@[simp] theorem at?_cons_file (name : String) (rest : Place) (content : List UInt8) :
    (file content).at? (name :: rest) = none := rfl

@[simp] theorem at?_cons_folder (name : String) (rest : Place) (inside : Folder) :
    (folder inside).at? (name :: rest) = (inside.find? name).bind (at? rest) := rfl

theorem at?_singleton (name : String) (inside : Folder) :
    (folder inside).at? [name] = inside.find? name := by
  rw [at?_cons_folder]
  cases inside.find? name <;> rfl

theorem at?_append (first second : Place) (entry : Entry) :
    entry.at? (first ++ second) = (entry.at? first).bind (at? second) := by
  induction first generalizing entry with
  | nil => rfl
  | cons name rest ih =>
    cases entry with
    | file content => rfl
    | folder inside =>
      rw [List.cons_append, at?_cons_folder, at?_cons_folder, Option.bind_assoc]
      congr 1
      funext entry
      exact ih entry

/-- What a file holds. -/
def content? : Entry → Option (List UInt8)
  | file content => some content
  | folder _ => none

/-- The same entry, if any, or a folder in place of a folder. -/
inductive Alike : Option Entry → Option Entry → Prop
  | same (entry : Option Entry) : Alike entry entry
  | folders (inside other : Folder) : Alike (some (folder inside)) (some (folder other))

theorem Alike.content? {entry other : Option Entry} (h : Alike entry other) :
    other.bind Entry.content? = entry.bind Entry.content? := by
  cases h <;> rfl

theorem Alike.exists_folder {inside : Folder} {other : Option Entry}
    (h : Alike (some (folder inside)) other) : ∃ changed, other = some (folder changed) := by
  cases h with
  | same => exact ⟨inside, rfl⟩
  | folders _ changed => exact ⟨changed, rfl⟩

end Entry

theorem Folder.at?_eq {place : Place} (hne : place ≠ []) (self : Folder) :
    self.at? place = (Entry.folder self).at? place := by
  induction place generalizing self with
  | nil => exact absurd rfl hne
  | cons name rest ih =>
    cases rest with
    | nil => cases hfind : self.find? name <;> simp [Folder.at?, hfind]
    | cons second rest =>
      rw [Entry.at?_cons_folder]
      rcases hfind : self.find? name with _ | content | inside
      · simp [Folder.at?, hfind]
      · simp [Folder.at?, hfind]
      · simpa [Folder.at?, hfind] using ih (List.cons_ne_nil _ _) inside

namespace Walker

/-- The names on the way from the root. -/
def place (self : Walker) : Place := (self.behind.map Prod.fst).reverse

theorem place_cons (entry above : Entry) (name : String) (inside : Folder)
    (behind : List (String × Folder)) :
    place ⟨entry, (name, inside) :: behind⟩ = place ⟨above, behind⟩ ++ [name] := by
  rw [place, place, List.map_cons, List.reverse_cons]

/-- The walker is on a way from the root of a volume. -/
inductive In (root : Folder) : Walker → Prop
  | start : In root ⟨.folder root, []⟩
  | further {entry : Entry} {name : String} {inside : Folder} {behind : List (String × Folder)}
      (h : In root ⟨.folder inside, behind⟩) (hfind : inside.find? name = some entry) :
      In root ⟨entry, (name, inside) :: behind⟩

/-- A name leads a walker from a folder to an entry. -/
inductive Steps : Walker → String → Walker → Prop
  | stay {inside : Folder} {behind : List (String × Folder)} {name : String}
      (hname : name = "" ∨ name = ".") :
      Steps ⟨.folder inside, behind⟩ name ⟨.folder inside, behind⟩
  | top {inside : Folder} : Steps ⟨.folder inside, []⟩ ".." ⟨.folder inside, []⟩
  | back {inside above : Folder} {behind : List (String × Folder)} {last : String} :
      Steps ⟨.folder inside, (last, above) :: behind⟩ ".." ⟨.folder above, behind⟩
  | enter {inside : Folder} {behind : List (String × Folder)} {name : String} {entry : Entry}
      (hempty : name ≠ "") (hhere : name ≠ ".") (hback : name ≠ "..")
      (hsize : name.utf8ByteSize ≤ longestName) (hfind : inside.find? name = some entry) :
      Steps ⟨.folder inside, behind⟩ name ⟨entry, (name, inside) :: behind⟩

variable {root other inside : Folder} {walker middle : Walker} {name : String}
  {names : List String} {behind : List (String × Folder)}

theorem step_eq_ok : walker.step name = .ok middle ↔ Steps walker name middle := by
  constructor
  · intro h
    obtain ⟨_ | inside, behind⟩ := walker
    · cases h
    · simp only [step] at h
      split at h
      · next hname =>
        cases h
        exact .stay (by simpa using hname)
      · next hname =>
        obtain ⟨hempty, hhere⟩ : name ≠ "" ∧ name ≠ "." := by simpa using hname
        split at h
        · next hback =>
          obtain rfl : name = ".." := by simpa using hback
          cases behind <;> cases h
          · exact .top
          · exact .back
        · next hback =>
          split at h
          · cases h
          · next hsize =>
            split at h
            · next entry hfind =>
              cases h
              exact .enter hempty hhere (by simpa using hback) (by omega) hfind
            · cases h
  · intro h
    cases h with
    | stay hname => rcases hname with rfl | rfl <;> rfl
    | top => rfl
    | back => rfl
    | enter hempty hhere hback hsize hfind =>
      simp [step, hempty, hhere, hback, Nat.not_lt.2 hsize, hfind]

theorem walk_cons_eq_ok {last : Walker} : walker.walk (name :: names) = .ok last ↔
    ∃ middle, walker.step name = .ok middle ∧ middle.walk names = .ok last := by
  rw [walk, List.foldlM_cons]
  exact bind_eq_ok

theorem In.at? (h : In root walker) :
    (Entry.folder root).at? walker.place = some walker.entry := by
  induction h with
  | start => rfl
  | @further entry name inside behind _ hfind ih =>
    rw [place_cons entry (.folder inside), Entry.at?_append, ih]
    simp [hfind]

theorem In.at?_concat (h : In root ⟨.folder inside, behind⟩) (name : String) :
    (Entry.folder root).at? (place ⟨.folder inside, behind⟩ ++ [name]) = inside.find? name := by
  rw [Entry.at?_append, h.at?]
  exact Entry.at?_singleton name inside

theorem In.step (h : In root walker) (hstep : walker.step name = .ok middle) : In root middle := by
  cases step_eq_ok.1 hstep with
  | stay | top => exact h
  | back =>
    cases h with
    | further h => exact h
  | enter _ _ _ _ hfind => exact .further h hfind

theorem In.walk (h : In root walker) (hwalk : walker.walk names = .ok middle) : In root middle := by
  induction names generalizing walker with
  | nil =>
    cases hwalk
    exact h
  | cons name rest ih =>
    obtain ⟨next, hstep, hrest⟩ := walk_cons_eq_ok.1 hwalk
    exact ih (h.step hstep) hrest

theorem walk_concat {last : Walker} (hwalk : walker.walk names = .ok middle)
    (hstep : middle.step name = .ok last) : walker.walk (names ++ [name]) = .ok last := by
  rw [walk, List.foldlM_append]
  exact bind_eq_ok.2 ⟨middle, hwalk, walk_cons_eq_ok.2 ⟨last, hstep, rfl⟩⟩

theorem folder_of_walk (hwalk : walker.walk names = .ok middle)
    (hfolder : ∃ inside, middle.entry = .folder inside) :
    ∃ inside, walker.entry = .folder inside := by
  cases names with
  | nil =>
    cases hwalk
    exact hfolder
  | cons name rest =>
    obtain ⟨next, hstep, -⟩ := walk_cons_eq_ok.1 hwalk
    cases step_eq_ok.1 hstep <;> exact ⟨_, rfl⟩

/-! ### Walking the same way in a volume that has changed -/

/-- Folders are where folders were. -/
def FoldersKept (root other : Folder) : Prop :=
  ∀ place inside, (Entry.folder root).at? place = some (.folder inside) →
    ∃ changed, (Entry.folder other).at? place = some (.folder changed)

/-- Two walkers in two volumes stand at the same place, the second on a folder. -/
structure Abreast (root other : Folder) (walker beside : Walker) : Prop where
  left : In root walker
  right : In other beside
  samePlace : walker.place = beside.place
  folder : ∃ inside, beside.entry = .folder inside

theorem Abreast.start (root other : Folder) :
    Abreast root other ⟨.folder root, []⟩ ⟨.folder other, []⟩ :=
  ⟨.start, .start, rfl, other, rfl⟩

variable {beside : Walker}

theorem Abreast.step (hkept : FoldersKept root other) (h : Abreast root other walker beside)
    (hstep : walker.step name = .ok middle) (hfolder : ∃ inside, middle.entry = .folder inside) :
    ∃ next, beside.step name = .ok next ∧ Abreast root other middle next := by
  obtain ⟨hleft, hright, hplace, inside', hinside'⟩ := h
  obtain ⟨_, behind'⟩ := beside
  obtain rfl := hinside'
  have hmiddle := hleft.step hstep
  cases step_eq_ok.1 hstep with
  | stay hname =>
    exact ⟨_, step_eq_ok.2 (.stay hname), hleft, hright, hplace, _, rfl⟩
  | top =>
    obtain rfl : behind' = [] := by simpa [place] using hplace.symm
    exact ⟨_, step_eq_ok.2 .top, hleft, hright, hplace, _, rfl⟩
  | @back _ above behind last =>
    cases hright with
    | start => simp [place] at hplace
    | @further _ last' above' behind' hright _ =>
      refine ⟨_, step_eq_ok.2 .back, hmiddle, hright, ?_, _, rfl⟩
      simp only [place, List.map_cons, List.reverse_cons] at hplace ⊢
      exact List.append_inj_left' hplace rfl
  | @enter inside behind _ entry hempty hhere hback hsize hfind =>
    obtain ⟨entered, rfl⟩ : ∃ entered, entry = .folder entered := hfolder
    -- The place is that of a folder in the one volume, so it is in the other.
    obtain ⟨changed, hchanged⟩ := hkept _ _ hmiddle.at?
    have hsame : place ⟨.folder entered, (name, inside) :: behind⟩ =
        place ⟨.folder inside', behind'⟩ ++ [name] := by
      rw [place_cons _ (.folder inside), hplace]
    have hfind' : inside'.find? name = some (.folder changed) := by
      rw [← hright.at?_concat, ← hsame, hchanged]
    refine ⟨_, step_eq_ok.2 (.enter hempty hhere hback hsize hfind'), hmiddle,
      .further hright hfind', ?_, _, rfl⟩
    rw [hsame, place_cons _ (.folder inside')]

theorem Abreast.walk (hkept : FoldersKept root other) (h : Abreast root other walker beside)
    (hwalk : walker.walk names = .ok middle) (hfolder : ∃ inside, middle.entry = .folder inside) :
    ∃ next, beside.walk names = .ok next ∧ Abreast root other middle next := by
  induction names generalizing walker beside with
  | nil =>
    cases hwalk
    exact ⟨beside, rfl, h⟩
  | cons name rest ih =>
    obtain ⟨first, hstep, hrest⟩ := walk_cons_eq_ok.1 hwalk
    have hfirst : ∃ inside, first.entry = .folder inside := folder_of_walk hrest hfolder
    obtain ⟨second, hsecond, habreast⟩ := h.step hkept hstep hfirst
    obtain ⟨next, hnext, hall⟩ := ih habreast hrest
    exact ⟨next, walk_cons_eq_ok.2 ⟨second, hsecond, hnext⟩, hall⟩

/-! ### Putting an entry where a walker stands -/

variable {entry : Entry}

/-- At and below the place of a new entry there is nothing but the entry. -/
theorem at?_rootWith (h : In root ⟨.folder inside, behind⟩) (below : Place) :
    (Entry.folder (rootWith (inside.put name entry) behind)).at?
        (place ⟨.folder inside, behind⟩ ++ name :: below) = entry.at? below := by
  induction behind generalizing inside name entry below with
  | nil => simp [place, rootWith]
  | cons last further ih =>
    obtain ⟨last, above⟩ := last
    cases h with
    | further h hfind =>
      rw [place_cons _ (.folder above), List.append_assoc, rootWith]
      exact (ih h (name :: below)).trans (by simp)

theorem alike_put {asked : Place} (helse : ¬ [name] <+: asked) :
    Entry.Alike ((Entry.folder inside).at? asked)
      ((Entry.folder (inside.put name entry)).at? asked) := by
  cases asked with
  | nil => exact .folders _ _
  | cons first rest =>
    have hne : name ≠ first := by
      rintro rfl
      exact helse ⟨rest, rfl⟩
    rw [Entry.at?_cons_folder, Entry.at?_cons_folder, Folder.find?_put_of_ne hne]
    exact .same _

/-- Everywhere else the entries are as they were, but for what the folders on the way hold. -/
theorem alike_rootWith (h : In root ⟨.folder inside, behind⟩) {asked : Place}
    (helse : ¬ place ⟨.folder inside, behind⟩ ++ [name] <+: asked) :
    Entry.Alike ((Entry.folder root).at? asked)
      ((Entry.folder (rootWith (inside.put name entry) behind)).at? asked) := by
  induction behind generalizing inside name entry with
  | nil =>
    cases h
    exact alike_put helse
  | cons last further ih =>
    obtain ⟨last, above⟩ := last
    cases h with
    | further h hfind =>
      rw [place_cons _ (.folder above)] at helse
      by_cases hbelow : place ⟨.folder above, further⟩ ++ [last] <+: asked
      · obtain ⟨rest, rfl⟩ := hbelow
        have hbefore : (Entry.folder root).at? (place ⟨.folder above, further⟩ ++ [last] ++ rest) =
            (Entry.folder inside).at? rest := by
          rw [Entry.at?_append, Entry.at?_append, h.at?]
          simp [hfind]
        rw [rootWith, hbefore, List.append_assoc, List.singleton_append, at?_rootWith h]
        exact alike_put fun hprefix => helse ((List.prefix_append_right_inj _).2 hprefix)
      · exact ih h hbelow

end Walker

end Fixture.Files

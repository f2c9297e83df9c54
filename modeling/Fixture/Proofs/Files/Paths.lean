import Fixture.Files.Expand
import Fixture.Proofs.Files.Writing
import Mathlib.Data.String.Basic

/-!
# Names on a path

A path is cut at its slashes, and its names are the texts between them. A pattern without a slash is
one name, so it stands for entries of the folder where relative paths begin.
-/

namespace Fixture.Files

open String (utf8Len ofList)
open String.Pos (Raw)
open List (splitOnPPrepend)

/-! ### Cutting at slashes -/

theorem get_slash : (0 : Raw).get "/" = '/' := by decide +kernel

section

variable {text : String} {start here : Raw} {cut : List String}

theorem splitOnAux_of_atEnd (h : here.atEnd text) :
    text.splitOnAux "/" start here 0 cut = cut.reverse ++ [start.extract text here] := by
  rw [String.splitOnAux.eq_def, if_pos h, List.reverse_cons]

theorem splitOnAux_of_get_eq (hend : ¬ here.atEnd text) (hslash : here.get text = '/') :
    text.splitOnAux "/" start here 0 cut =
      text.splitOnAux "/" (here.next text) (here.next text) 0 (start.extract text here :: cut) := by
  have hafter : (0 : Raw).next "/" = ⟨1⟩ := by decide +kernel
  have hover : ((0 : Raw).next "/").atEnd "/" := by decide +kernel
  have hback : (here.next text).unoffsetBy ((0 : Raw).next "/") = here := by
    rw [Raw.next, hslash, hafter]
    rfl
  rw [String.splitOnAux.eq_def, if_neg hend, if_pos (by simp [hslash, get_slash])]
  simp only [if_pos hover, hback]

theorem splitOnAux_of_get_ne (hend : ¬ here.atEnd text) (hslash : here.get text ≠ '/') :
    text.splitOnAux "/" start here 0 cut =
      text.splitOnAux "/" start (here.next text) 0 cut := by
  have hback : here.unoffsetBy 0 = here := rfl
  rw [String.splitOnAux.eq_def, if_neg hend, if_neg (by simpa [get_slash] using hslash), hback]

end

theorem extract_name {text : String} {front name rest : List Char}
    (h : ofList (front ++ name ++ rest) = text) :
    Raw.extract text ⟨utf8Len front⟩ ⟨utf8Len (front ++ name)⟩ = ofList name := by
  rw [← h, String.utf8Len_append]
  exact String.extract_of_valid front name rest

/-- A text is cut from the front, with `front` behind the last cut and `name` met since then. -/
theorem splitOnAux_eq {text : String} (front name rest : List Char) (cut : List String)
    (h : ofList (front ++ name ++ rest) = text) :
    text.splitOnAux "/" ⟨utf8Len front⟩ ⟨utf8Len (front ++ name)⟩ 0 cut =
      cut.reverse ++ (splitOnPPrepend (· == '/') rest name.reverse).map ofList := by
  induction rest generalizing front name cut with
  | nil =>
    have hend : Raw.atEnd text ⟨utf8Len (front ++ name)⟩ := by
      rw [← h]
      exact (String.atEnd_of_valid _ _).2 rfl
    rw [splitOnAux_of_atEnd hend, extract_name h, List.splitOnPPrepend_nil, List.reverse_reverse]
    rfl
  | cons c rest ih =>
    have hend : ¬ Raw.atEnd text ⟨utf8Len (front ++ name)⟩ := by
      rw [← h, String.atEnd_of_valid]
      exact List.cons_ne_nil c rest
    have hget : Raw.get text ⟨utf8Len (front ++ name)⟩ = c := by
      rw [← h]
      exact String.get_of_valid _ _
    have hnext : Raw.next text ⟨utf8Len (front ++ name)⟩ = ⟨utf8Len (front ++ name ++ [c])⟩ := by
      rw [← h, String.next_of_valid, String.utf8Len_append (front ++ name)]
      simp
    by_cases hslash : c = '/'
    · have hrest : text.splitOnAux "/" ⟨utf8Len (front ++ name ++ [c])⟩
          ⟨utf8Len (front ++ name ++ [c])⟩ 0 (ofList name :: cut) =
            (ofList name :: cut).reverse ++ (rest.splitOnP (· == '/')).map ofList := by
        simpa using ih (front ++ name ++ [c]) [] (ofList name :: cut) (by simp [← h])
      rw [splitOnAux_of_get_eq hend (hget.trans hslash), hnext, extract_name h, hrest,
        List.splitOnPPrepend_cons_eq_if, if_pos (by simp [hslash])]
      simp
    · have hrest : text.splitOnAux "/" ⟨utf8Len front⟩ ⟨utf8Len (front ++ name ++ [c])⟩ 0 cut =
          cut.reverse ++ (splitOnPPrepend (· == '/') rest (c :: name.reverse)).map ofList := by
        simpa using ih front (name ++ [c]) cut (by simp [← h])
      rw [splitOnAux_of_get_ne hend (by rwa [hget]), hnext, hrest,
        List.splitOnPPrepend_cons_eq_if, if_neg (by simpa using hslash)]

theorem splitOn_slash (text : String) :
    text.splitOn "/" = (text.toList.splitOn '/').map ofList :=
  splitOnAux_eq [] [] text.toList [] String.ofList_toList

theorem splitOn_of_not_mem {text : String} (h : '/' ∉ text.toList) : text.splitOn "/" = [text] := by
  rw [splitOn_slash, List.splitOn_eq_singleton h, List.map_singleton, String.ofList_toList]

theorem startsWith_of_not_mem {text : String} (h : '/' ∉ text.toList) :
    text.startsWith "/" = false := by
  rw [String.startsWith_string_eq_false_iff]
  exact fun hfront => h (hfront.subset (by decide))

theorem endsWith_of_not_mem {text : String} (h : '/' ∉ text.toList) :
    text.endsWith "/" = false := by
  rw [String.endsWith_eq_endsWith_toSlice, String.Slice.endsWith_string_eq_false_iff,
    String.copy_toSlice]
  exact fun hback => h (hback.subset (by decide))

theorem patternNames_of_not_mem {text : String} (hne : text ≠ "") (h : '/' ∉ text.toList) :
    patternNames text = [text] := by
  rw [patternNames, splitOn_of_not_mem h]
  exact if_neg (by simpa using hne)

theorem isHere_dot : isHere "." = true := by
  rw [isHere, splitOn_of_not_mem (by decide)]
  rfl

/-! ### Names in the folder where paths begin -/

section

variable {files : Volume}

theorem start_of_current_nil (h : files.current = []) (path : String) :
    files.start path = .ok ⟨.folder files.root, []⟩ := by
  rw [Volume.start, h, ite_self]
  rfl

theorem resolve_dot (h : files.current = []) : files.resolve "." = .ok (.folder files.root) := by
  have husable : Volume.unusable? "." = none := by decide
  have hnames : Volume.names "." = ["."] := splitOn_of_not_mem (by decide)
  simp only [Volume.resolve, husable, start_of_current_nil h, hnames]
  rfl

theorem read_of_find? {name : String} {content : List UInt8} (h : files.current = [])
    (husable : Volume.unusable? name = none) (hslash : '/' ∉ name.toList)
    (hname : Volume.FileName name) (hfile : files.root.find? name = some (.file content)) :
    files.read name = .ok content := by
  have hwalk : Walker.walk ⟨.folder files.root, []⟩ (Volume.names name) =
      .ok ⟨.file content, [(name, files.root)]⟩ := by
    rw [Volume.names, splitOn_of_not_mem hslash]
    exact Walker.walk_cons_eq_ok.2 ⟨_, Walker.step_eq_ok.2
      (.enter hname.notEmpty hname.notHere hname.notBack hname.size hfile), rfl⟩
  have hat : files.fileAt? [name] = some content := by
    rw [Volume.fileAt?, Folder.at?, hfile]
    rfl
  exact Volume.read_of_leads ⟨husable, _, _, start_of_current_nil h name, hwalk, rfl⟩ hat

end

/-- A pattern of one open name stands for the entries that it covers, of the folder where relative
paths begin. -/
theorem expand_name {files : Volume} {folder : Folder} {text : String} {pattern : Pattern}
    (hfolder : files.resolve "." = .ok (.folder folder)) (hne : text ≠ "")
    (hslash : '/' ∉ text.toList) (hread : readPattern text = .ok pattern)
    (hopen : pattern.literal? = none) (hfolders : pattern.isAnyFolders = false)
    (hdot : (pattern.head? == some (.char '.')) = false) :
    expand files text =
      .ok ((folder.entries.map Prod.fst).filter fun name => pattern.covers name.toList) := by
  have hisFolder : files.isFolder "." = true := by
    rw [Volume.isFolder, hfolder]
    rfl
  have hentries : entriesOf files "." =
      .ok (folder.entries.map fun entry => (⟨entry.1, entry.2.isFolder⟩, entry.1)) := by
    simp only [entriesOf, listed, hfolder, inside, isHere_dot]
    rfl
  have hpatterns : [text].mapM readPattern = .ok [pattern] := by
    rw [List.mapM_cons, hread]
    rfl
  have hexpand : expand files text = follow files false [pattern] ⟨".", true⟩ := by
    simp only [expand, patternNames_of_not_mem hne hslash, startsWith_of_not_mem hslash,
      endsWith_of_not_mem hslash, hread, Found.lookUp, if_neg Bool.false_ne_true, hisFolder,
      hpatterns]
    rfl
  have hend : (fun entry : Found × String => follow files false [] entry.1) =
      fun entry => pure [entry.1.path] := by
    funext entry
    rw [follow]
    rfl
  rw [hexpand, follow, hopen]
  simp only [Bool.not_true, hfolders, hdot, if_neg Bool.false_ne_true, hentries, hend,
    List.mapM_pure, List.map_nil, List.nil_append]
  show Except.ok _ = Except.ok _
  rw [← List.flatMap_def, ← List.map_eq_flatMap, List.filter_map, List.filter_map, List.map_map]
  rfl

end Fixture.Files

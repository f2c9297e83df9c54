import Fixture.CommandLine.Run
import Fixture.Proofs.Catalog.Admission

/-!
# Catalogues from several documents

A run reads several documents and puts their catalogues together, each behind those before it. Every
document is loaded on its own first, so its definitions are checked twice: against each other, and
again when they are taken over. The second check asks for more than the first, and asks of all
documents together what the first would ask of one document with all their entries. So it does not
matter how entries are spread over documents.
-/

namespace Fixture

namespace Catalog

/-- Takes over the types and settings of a document, or nothing if one of its types is refused. -/
def join (catalog : Catalog) (document : Document) : Except Flaw Catalog :=
  match ofDocument document with
  | .error flaw => .error flaw
  | .ok part =>
    match catalog.merge part with
    | (_, some flaw) => .error flaw
    | (merged, none) => .ok merged

/-- Takes over one document after another. -/
def joinAll (catalog : Catalog) (documents : List Document) : Except Flaw Catalog :=
  documents.foldlM join catalog

def ofDocuments (documents : List Document) : Except Flaw Catalog := empty.joinAll documents

/-- The settings of the last document that gives any. -/
def lastSettings? (documents : List Document) : Option Settings :=
  (documents.filterMap (·.settings)).getLast?

variable {catalog larger : Catalog} {document : Document} {documents : List Document}

theorem lastSettings?_cons (document : Document) (rest : List Document) :
    lastSettings? (document :: rest) = (lastSettings? rest).or document.settings := by
  unfold lastSettings?
  cases hsettings : document.settings with
  | none => rw [List.filterMap_cons_none hsettings, Option.or_none]
  | some settings =>
    rw [List.filterMap_cons_some hsettings, List.getLast?_cons]
    cases (rest.filterMap (·.settings)).getLast? <;> rfl

/-! ### One document -/

theorem join_eq_ok : catalog.join document = .ok larger ↔
    ∃ part, ofDocument document = .ok part ∧ catalog.merge part = (larger, none) := by
  rw [join]
  split
  · next hpart => simp [hpart]
  · next part hpart =>
    split
    · next hmerge => simp [hpart, hmerge]
    · next hmerge => simp [hpart, hmerge]

/-- That a document can be loaded on its own adds nothing to what the catalogue asks of it. -/
theorem join_ok_iff : catalog.join document = .ok larger ↔
    ∃ definitions, document.types.mapM (·.definition) = .ok definitions ∧
      catalog.Admits definitions ∧ larger =
        ⟨catalog.definitions ++ definitions, document.settings.or catalog.settings⟩ := by
  rw [join_eq_ok]
  constructor
  · rintro ⟨part, hpart, hmerge⟩
    obtain ⟨definitions, hdefinitions, -, rfl⟩ := ofDocument_ok_iff.1 hpart
    exact ⟨definitions, hdefinitions, merge_ok_iff.1 hmerge⟩
  · rintro ⟨definitions, hdefinitions, hadmits, rfl⟩
    have hpart : ofDocument document = .ok ⟨definitions, document.settings⟩ :=
      ofDocument_ok_iff.2 ⟨definitions, hdefinitions, hadmits.of_empty, rfl⟩
    exact ⟨_, hpart, merge_ok_iff.2 ⟨hadmits, rfl⟩⟩

/-! ### All documents -/

theorem joinAll_cons (catalog : Catalog) (document : Document) (rest : List Document) :
    catalog.joinAll (document :: rest) =
      (catalog.join document).bind (·.joinAll rest) := by
  rw [joinAll, List.foldlM_cons]
  rfl

/-- Documents are taken over one by one as if their entries stood in one document. -/
theorem joinAll_ok_iff : catalog.joinAll documents = .ok larger ↔
    ∃ definitions, (documents.flatMap (·.types)).mapM (·.definition) = .ok definitions ∧
      catalog.Admits definitions ∧ larger =
        ⟨catalog.definitions ++ definitions, (lastSettings? documents).or catalog.settings⟩ := by
  induction documents generalizing catalog with
  | nil => simp [joinAll, lastSettings?, pure, Except.pure, admits_nil, eq_comm]
  | cons document rest ih =>
    rw [joinAll_cons, bind_eq_ok, List.flatMap_cons]
    constructor
    · rintro ⟨middle, hmiddle, hrest⟩
      obtain ⟨firsts, hfirsts, hadmits, rfl⟩ := join_ok_iff.1 hmiddle
      obtain ⟨seconds, hseconds, hothers, rfl⟩ := ih.1 hrest
      refine ⟨firsts ++ seconds, ?_, admits_append.2 ⟨hadmits, ?_⟩, ?_⟩
      · exact mapM_append_eq_ok.2 ⟨firsts, seconds, hfirsts, hseconds, rfl⟩
      · exact hothers.mono fun _ => id
      · rw [lastSettings?_cons, Option.or_assoc, List.append_assoc]
    · rintro ⟨definitions, hdefinitions, hadmits, rfl⟩
      obtain ⟨firsts, seconds, hfirsts, hseconds, rfl⟩ := mapM_append_eq_ok.1 hdefinitions
      obtain ⟨hadmits, hothers⟩ := admits_append.1 hadmits
      refine ⟨_, join_ok_iff.2 ⟨firsts, hfirsts, hadmits, rfl⟩, ih.2 ⟨seconds, hseconds, ?_, ?_⟩⟩
      · exact hothers.mono fun _ => id
      · rw [lastSettings?_cons, Option.or_assoc, List.append_assoc]

theorem ofDocuments_ok_iff : ofDocuments documents = .ok catalog ↔
    ∃ definitions, (documents.flatMap (·.types)).mapM (·.definition) = .ok definitions ∧
      empty.Admits definitions ∧ catalog = ⟨definitions, lastSettings? documents⟩ := by
  have hsettings : (lastSettings? documents).or empty.settings = lastSettings? documents :=
    Option.or_none
  rw [ofDocuments, joinAll_ok_iff, hsettings]
  rfl

theorem merge_merge_iff {first second third merged : Catalog} :
    (∃ front, first.merge second = (front, none) ∧ front.merge third = (merged, none)) ↔
      ∃ back, second.merge third = (back, none) ∧ first.merge back = (merged, none) := by
  constructor
  · rintro ⟨front, hfront, hmerged⟩
    obtain ⟨hsecond, rfl⟩ := merge_ok_iff.1 hfront
    obtain ⟨hthird, rfl⟩ := merge_ok_iff.1 hmerged
    have hboth : first.Admits (second.definitions ++ third.definitions) :=
      admits_append.2 ⟨hsecond, hthird.mono fun _ => id⟩
    have hback : second.Admits third.definitions := by
      refine hthird.mono fun qualified hnew => ?_
      obtain ⟨-, hnew⟩ := contains_extend.1 hnew
      rwa [← contains_iff, Bool.not_eq_true] at hnew
    refine ⟨_, merge_ok_iff.2 ⟨hback, rfl⟩, merge_ok_iff.2 ⟨hboth, ?_⟩⟩
    simp [extend, Option.or_assoc]
  · rintro ⟨back, hback, hmerged⟩
    obtain ⟨hthird, rfl⟩ := merge_ok_iff.1 hback
    obtain ⟨hboth, rfl⟩ := merge_ok_iff.1 hmerged
    obtain ⟨hsecond, hthird⟩ := admits_append.1 hboth
    refine ⟨_, merge_ok_iff.2 ⟨hsecond, rfl⟩, merge_ok_iff.2 ⟨hthird.mono fun _ => id, ?_⟩⟩
    simp [extend, Option.or_assoc]

end Catalog

namespace CommandLine

open Files (Volume)

/-- A file that can be read, with the document written in it. -/
def Holds (files : Volume) (path : String) (document : Document) : Prop :=
  ∃ content, files.read path = .ok content ∧ Document.ofJson content = .ok document

variable {files : Volume} {catalog loaded : Catalog} {paths : List String}

theorem loadAll_cons_ok_iff {path : String} {rest : List String} :
    loadAll files catalog (path :: rest) = .ok loaded ↔
      ∃ document middle, Holds files path document ∧ catalog.join document = .ok middle ∧
        loadAll files middle rest = .ok loaded := by
  constructor
  · intro h
    rw [loadAll] at h
    split at h
    · cases h
    · next content hread =>
      split at h
      · cases h
      · next part hpart =>
        split at h
        · cases h
        · next middle hmerge =>
          obtain ⟨document, hdocument, hpart⟩ := Catalog.ofJson_ok_iff.1 hpart
          exact ⟨document, middle, ⟨content, hread, hdocument⟩,
            Catalog.join_eq_ok.2 ⟨part, hpart, hmerge⟩, h⟩
  · rintro ⟨document, middle, ⟨content, hread, hdocument⟩, hjoin, hrest⟩
    obtain ⟨part, hpart, hmerge⟩ := Catalog.join_eq_ok.1 hjoin
    have hcontent : Catalog.ofJson content = .ok part :=
      Catalog.ofJson_ok_iff.2 ⟨document, hdocument, hpart⟩
    simp only [loadAll, hread, hcontent, hmerge, hrest]

theorem loadAll_ok_iff : loadAll files catalog paths = .ok loaded ↔
    ∃ documents, List.Forall₂ (Holds files) paths documents ∧
      catalog.joinAll documents = .ok loaded := by
  induction paths generalizing catalog with
  | nil => simp [loadAll, Catalog.joinAll, pure, Except.pure]
  | cons path rest ih =>
    rw [loadAll_cons_ok_iff]
    constructor
    · rintro ⟨document, middle, hholds, hjoin, hrest⟩
      obtain ⟨documents, hall, hloaded⟩ := ih.1 hrest
      refine ⟨document :: documents, .cons hholds hall, ?_⟩
      rw [Catalog.joinAll_cons]
      exact bind_eq_ok.2 ⟨middle, hjoin, hloaded⟩
    · rintro ⟨_, hall, hloaded⟩
      cases hall with
      | @cons _ document _ documents hholds hall =>
        rw [Catalog.joinAll_cons] at hloaded
        obtain ⟨middle, hjoin, hrest⟩ := bind_eq_ok.1 hloaded
        exact ⟨document, middle, hholds, hjoin, ih.2 ⟨documents, hall, hrest⟩⟩

end CommandLine

namespace Catalog

/-- It does not matter how entries are spread over documents. Documents that are loaded one by one,
each taken over by the catalogue of those before it, are accepted if and only if one document with
all their entries is, and the catalogue has the same types in the same order; its settings are those
of the last document that gives any. That is how a run loads what the files hold. And where three
catalogues can be put together, it does not matter which two of them come first. -/
theorem ofDocuments_flatMap :
    (∀ (documents : List Document) (settings : Option Settings) (catalog : Catalog),
      ofDocuments documents = .ok catalog ↔
        ∃ single, ofDocument ⟨settings, documents.flatMap (·.types)⟩ = .ok single ∧
          catalog.definitions = single.definitions ∧
            catalog.settings = lastSettings? documents) ∧
      (∀ (files : Files.Volume) (paths : List String) (catalog : Catalog),
        CommandLine.loadAll files empty paths = .ok catalog ↔
          ∃ documents, List.Forall₂ (CommandLine.Holds files) paths documents ∧
            ofDocuments documents = .ok catalog) ∧
      ∀ first second third merged : Catalog,
        (∃ front, first.merge second = (front, none) ∧ front.merge third = (merged, none)) ↔
          ∃ back, second.merge third = (back, none) ∧ first.merge back = (merged, none) := by
  refine ⟨fun documents settings catalog => ?_, fun _ _ _ => CommandLine.loadAll_ok_iff,
    fun _ _ _ _ => merge_merge_iff⟩
  rw [ofDocuments_ok_iff]
  constructor
  · rintro ⟨definitions, hdefinitions, hadmits, rfl⟩
    exact ⟨_, ofDocument_ok_iff.2 ⟨definitions, hdefinitions, hadmits, rfl⟩, rfl, rfl⟩
  · rintro ⟨single, hsingle, htypes, hsettings⟩
    obtain ⟨definitions, hdefinitions, hadmits, rfl⟩ := ofDocument_ok_iff.1 hsingle
    have htypes : catalog.definitions = definitions := htypes
    refine ⟨definitions, hdefinitions, hadmits, ?_⟩
    rw [← htypes, ← hsettings]

end Catalog

end Fixture

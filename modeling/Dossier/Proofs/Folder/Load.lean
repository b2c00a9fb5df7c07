import Mathlib.Data.List.Forall2
import Dossier.Folder.Load
import Dossier.Proofs.Folder.Tree
import Dossier.Proofs.Frontmatter.Document

/-!
# Every Markdown file is accounted for

The report on a folder is put together from the outcomes of its Markdown files, one for each, in
the order of their paths. A readme without frontmatter leaves nothing, and any other file leaves a
document or a failure (`Outcome`). No content keeps a folder from being read, and what one file
holds shows in its own outcome only (`load_folder`).
-/

namespace Dossier.Folder

/-! ## Reports put together -/

namespace Report

instance : Append Report := ⟨fun a b => ⟨a.documents ++ b.documents, a.failures ++ b.failures⟩⟩

/-- Reports put together in their order. -/
def joined (parts : List Report) : Report := parts.foldr (· ++ ·) ⟨[], []⟩

variable {parts parts' : List Report}

theorem append_def (a b : Report) :
    a ++ b = ⟨a.documents ++ b.documents, a.failures ++ b.failures⟩ := rfl

/-- Reports that follow others are put together after them. -/
theorem joined_append : joined (parts ++ parts') = joined parts ++ joined parts' := by
  induction parts with
  | nil => rfl
  | cons part rest ih =>
    show part ++ joined (rest ++ parts') = (part ++ joined rest) ++ joined parts'
    rw [ih]
    simp only [append_def, List.append_assoc]

/-- A report by itself is put together from itself. -/
theorem joined_singleton (part : Report) : joined [part] = part := by
  show part ++ ⟨[], []⟩ = part
  simp only [append_def, List.append_nil]

end Report

/-- What a report says of one entry. -/
def Entry.report (e : Entry) : Report := ⟨e.document?.toList, e.failure?.toList⟩

/-- Entries are reported one after another. -/
theorem joined_map_report (entries : List Entry) : Report.joined (entries.map Entry.report) =
    ⟨entries.filterMap Entry.document?, entries.filterMap Entry.failure?⟩ := by
  induction entries with
  | nil => rfl
  | cons e rest ih =>
    show e.report ++ Report.joined (rest.map Entry.report) = _
    rw [ih]
    cases e <;> rfl

/-- The report on a tree is put together from those on its Markdown files. -/
theorem load_eq_joined (taxonomy : Taxonomy) (t : Tree) :
    t.load taxonomy = .joined (t.markdownFiles.map fun f => (f.read taxonomy).report) := by
  rw [Tree.load, ← joined_map_report, List.map_map]
  rfl

/-! ## The outcome of a file -/

/-- A readme without frontmatter. -/
structure File.IsPlainReadme (f : File) : Prop where
  isReadme : f.isReadme = true
  plain : ∃ text, Text.decodeUtf8 f.content = .ok text ∧ Frontmatter.split? text = none

/-- What a report says of a Markdown file: nothing of a readme without frontmatter, and one
document or one failure of any other file. -/
inductive Outcome (taxonomy : Taxonomy) (f : File) : Report → Prop
  | skipped : f.IsPlainReadme → Outcome taxonomy f ⟨[], []⟩
  | document {text doc} : ¬f.IsPlainReadme → Text.decodeUtf8 f.content = .ok text →
      Frontmatter.readDocument taxonomy f.path text = .ok doc → doc.source = some f.path →
      Outcome taxonomy f ⟨[doc], []⟩
  | refused {text cause} : ¬f.IsPlainReadme → Text.decodeUtf8 f.content = .ok text →
      Frontmatter.readDocument taxonomy f.path text = .error cause →
      Outcome taxonomy f ⟨[], [⟨f.path, .refused cause⟩]⟩
  | notText {fault} : ¬f.IsPlainReadme → Text.decodeUtf8 f.content = .error fault →
      Outcome taxonomy f ⟨[], [⟨f.path, .notText⟩]⟩

variable {taxonomy : Taxonomy}

/-- A document comes from where its text does. -/
theorem source_of_readDocument {source text : String} {doc : Document}
    (h : Frontmatter.readDocument taxonomy source text = .ok doc) : doc.source = some source := by
  obtain ⟨_, _, -, -, h⟩ := Frontmatter.readDocument_eq_ok_iff.1 h
  obtain ⟨-, _, -, rfl⟩ := Frontmatter.ofFields_eq_ok_iff.1 h
  rfl

/-- What is read of a file is its outcome. -/
theorem outcome_read (taxonomy : Taxonomy) (f : File) :
    Outcome taxonomy f (f.read taxonomy).report := by
  unfold File.read
  split
  case h_1 fault htext =>
    refine .notText (fun ⟨_, text, h, _⟩ => ?_) htext
    rw [htext] at h
    cases h
  case h_2 text htext =>
    have hplain : f.IsPlainReadme ↔ (f.isReadme && (Frontmatter.split? text).isNone) = true := by
      rw [Bool.and_eq_true, Option.isNone_iff_eq_none]
      constructor
      · rintro ⟨hreadme, text', htext', hsplit⟩
        rw [htext] at htext'
        cases htext'
        exact ⟨hreadme, hsplit⟩
      · rintro ⟨hreadme, hsplit⟩
        exact ⟨hreadme, text, htext, hsplit⟩
    split
    case isTrue h => exact .skipped (hplain.2 h)
    case isFalse h =>
      split
      case h_1 doc hdoc => exact .document (mt hplain.1 h) htext hdoc (source_of_readDocument hdoc)
      case h_2 cause hcause => exact .refused (mt hplain.1 h) htext hcause

/-! ## The whole folder -/

/-- The Markdown files of a tree stand in the order of their paths. -/
theorem pairwise_markdownFiles (t : Tree) :
    t.markdownFiles.Pairwise fun a b => a.path ≤ b.path := by
  refine (List.pairwise_mergeSort ?_ ?_ _).imp of_decide_eq_true
  · simp only [decide_eq_true_eq]
    exact fun _ _ _ => String.le_trans
  · simp only [Bool.or_eq_true, decide_eq_true_eq]
    exact fun a b => String.le_total a.path b.path

/-- What one file holds shows in its own outcome only if it is Markdown, and not at all if it is
not. -/
theorem exists_load_fill (taxonomy : Taxonomy) (hole : Tree.Hole) :
    ∃ before after : Report, ∀ content, ∃ part,
    (hole.fill content).load taxonomy = before ++ part ++ after ∧
      if File.isMarkdown ⟨hole.names, content⟩ then Outcome taxonomy ⟨hole.names, content⟩ part
      else part = ⟨[], []⟩ := by
  obtain ⟨first, last, hfiles⟩ := hole.exists_markdownFiles_fill
  let report (f : File) : Report := (f.read taxonomy).report
  refine ⟨.joined (first.map report), .joined (last.map report), fun content => ?_⟩
  refine ⟨.joined (([(⟨hole.names, content⟩ : File)].filter File.isMarkdown).map report), ?_, ?_⟩
  · rw [load_eq_joined, hfiles, List.map_append, List.map_append, Report.joined_append,
      Report.joined_append]
  · split
    case isTrue h =>
      rw [List.filter_cons_of_pos h, List.filter_nil, List.map_singleton, Report.joined_singleton]
      exact outcome_read taxonomy _
    case isFalse h =>
      rw [List.filter_cons_of_neg h]
      rfl

/-- **A folder is always read, and every Markdown file in it is accounted for.** The report is put
together from one outcome for each of these files, in the order of their paths, and whatever one
file of the folder is made to hold, the others are reported as before. -/
theorem load_folder (taxonomy : Taxonomy) (path : String) (entries : List (String × Tree)) :
    (∃ files parts, files.Perm ((Tree.folder entries).files.filter File.isMarkdown) ∧
      files.Pairwise (fun a b => a.path ≤ b.path) ∧ List.Forall₂ (Outcome taxonomy) files parts ∧
      load taxonomy path (some (.folder entries)) = .ok (.joined parts)) ∧
    ∀ f ∈ (Tree.folder entries).files, ∃ hole : Tree.Hole, hole.names = f.names ∧
      hole.fill f.content = .folder entries ∧ ∃ before after : Report, ∀ content, ∃ part,
        load taxonomy path (some (hole.fill content)) = .ok (before ++ part ++ after) ∧
          if f.isMarkdown then Outcome taxonomy ⟨f.names, content⟩ part else part = ⟨[], []⟩ := by
  constructor
  · refine ⟨(Tree.folder entries).markdownFiles, _, List.mergeSort_perm ..,
      pairwise_markdownFiles _, ?_, congrArg Except.ok (load_eq_joined taxonomy _)⟩
    rw [List.forall₂_map_right_iff, List.forall₂_same]
    exact fun f _ => outcome_read taxonomy f
  · intro f hf
    obtain ⟨hole, hnames, hfill⟩ := Tree.exists_hole_of_mem_files _ hf
    obtain ⟨before, after, hload⟩ := exists_load_fill taxonomy hole
    refine ⟨hole, hnames, hfill, before, after, fun content => ?_⟩
    obtain ⟨part, hpart, houtcome⟩ := hload content
    have hfolder : (hole.fill content).isFolder = true := by
      cases hole with
      | here => cases hfill
      | inside => rfl
    refine ⟨part, ?_, ?_⟩
    · rw [load, if_pos hfolder, hpart]
    · rw [hnames] at houtcome
      exact houtcome

end Dossier.Folder

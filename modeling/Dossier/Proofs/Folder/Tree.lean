import Mathlib.Data.String.Basic
import Dossier.Folder.Markdown

/-!
# A tree with one file left open

To say what the content of one file has to do with the rest, a tree is taken apart into that file
and everything around it (`Hole`). Every file of a tree can be taken out in this way
(`exists_hole_of_mem_files`). The others are listed as they are whatever the file holds
(`Hole.exists_files_fill`), also among the Markdown files, which are sorted by their paths
(`Hole.exists_markdownFiles_fill`).
-/

namespace Dossier.Folder

namespace Tree

/-- A tree with one file left open: the whole tree, or an entry of a folder among others. -/
inductive Hole where
  | here
  | inside (before : List (String × Tree)) (name : String) (inner : Hole)
    (after : List (String × Tree))

namespace Hole

/-- The names that lead to the file that is left open. -/
def names : Hole → List String
  | here => []
  | inside _ name inner _ => name :: inner.names

/-- The tree in which the file that was left open has the given content. -/
def fill (content : List UInt8) : Hole → Tree
  | here => .file content
  | inside before name inner after => .folder (before ++ (name, inner.fill content) :: after)

end Hole

/-! ## Files of entries -/

/-- The files of entries are those of the entries before and of those after. -/
theorem filesOf_append (before after : List (String × Tree)) :
    filesOf (before ++ after) = filesOf before ++ filesOf after := by
  induction before with
  | nil => simp [filesOf]
  | cons entry rest ih =>
    obtain ⟨name, t⟩ := entry
    rw [List.cons_append, filesOf, filesOf, ih, List.append_assoc]

/-! ## Taking a file out -/

mutual

/-- Every file of a tree can be left open. -/
theorem exists_hole_of_mem_files : (t : Tree) → {f : File} → f ∈ t.files →
    ∃ hole : Hole, hole.names = f.names ∧ hole.fill f.content = t
  | .file content, _, h => by
    rw [files] at h
    obtain rfl := List.mem_singleton.1 h
    exact ⟨.here, rfl, rfl⟩
  | .folder entries, _, h => by
    rw [files] at h
    obtain ⟨before, name, inner, after, hnames, hentries⟩ := exists_hole_of_mem_filesOf entries h
    exact ⟨.inside before name inner after, hnames, by rw [Hole.fill, hentries]⟩

/-- Every file of the entries of a folder can be left open in one of them. -/
theorem exists_hole_of_mem_filesOf :
    (entries : List (String × Tree)) → {f : File} → f ∈ filesOf entries →
    ∃ before name inner after, name :: Hole.names inner = f.names ∧
      before ++ (name, inner.fill f.content) :: after = entries
  | [], _, h => by
    rw [filesOf] at h
    cases h
  | (name, t) :: rest, _, h => by
    rw [filesOf] at h
    rcases List.mem_append.1 h with h | h
    · obtain ⟨g, hg, rfl⟩ := List.mem_map.1 h
      obtain ⟨inner, hnames, hfill⟩ := exists_hole_of_mem_files t hg
      exact ⟨[], name, inner, rest, by rw [hnames], by rw [hfill, List.nil_append]⟩
    · obtain ⟨before, name', inner, after, hnames, hentries⟩ := exists_hole_of_mem_filesOf rest h
      exact ⟨(name, t) :: before, name', inner, after, hnames, by rw [List.cons_append, hentries]⟩

end

namespace Hole

/-- The other files of a tree are listed as they are, whatever a file holds. -/
theorem exists_files_fill (hole : Hole) : ∃ before after : List File, ∀ content,
    (hole.fill content).files = before ++ ⟨hole.names, content⟩ :: after := by
  induction hole with
  | here => exact ⟨[], [], fun content => by rw [fill, files]; rfl⟩
  | inside before name inner after ih =>
    obtain ⟨first, last, hfiles⟩ := ih
    let enter (f : File) : File := { f with names := name :: f.names }
    refine ⟨filesOf before ++ first.map enter, last.map enter ++ filesOf after, fun content => ?_⟩
    rw [fill, files, filesOf_append, filesOf, hfiles, List.map_append, List.map_cons]
    simp [enter, names]

end Hole

end Tree

/-! ## Sorting -/

/-- Sorting by paths puts a file between the same others, whatever it holds. -/
theorem exists_mergeSort_eq (before after : List File) (names : List String) :
    ∃ first last : List File, ∀ content,
    (before ++ ⟨names, content⟩ :: after).mergeSort (·.path ≤ ·.path) =
      first ++ ⟨names, content⟩ :: last := by
  -- the list is sorted with a gap in the place of the file, and the gap is filled afterwards
  let fill (content : List UInt8) (f : Option File) : File := f.getD ⟨names, content⟩
  let gapped : List (Option File) := before.map some ++ none :: after.map some
  let sorted := gapped.mergeSort fun a b => (fill [] a).path ≤ (fill [] b).path
  have hgapped (content : List UInt8) : gapped.map (fill content) =
      before ++ ⟨names, content⟩ :: after := by
    simp [gapped, fill, Function.comp_def]
  have hpath (content : List UInt8) (f : Option File) : (fill content f).path =
      (fill [] f).path := by
    cases f <;> rfl
  have hsorted (content : List UInt8) : sorted.map (fill content) =
      (before ++ ⟨names, content⟩ :: after).mergeSort (·.path ≤ ·.path) := by
    rw [List.map_mergeSort (s := fun a b => a.path ≤ b.path), hgapped]
    intro a _ b _
    rw [hpath content a, hpath content b]
  have hperm : sorted.Perm gapped := List.mergeSort_perm ..
  have hgap : none ∈ sorted := hperm.mem_iff.2 (by simp [gapped])
  obtain ⟨first, last, hgap⟩ := List.append_of_mem hgap
  -- there is one gap only, so what lies around it does not depend on the content
  have hfiles (l : List File) : (l.map some).count none = 0 := List.count_eq_zero.2 (by simp)
  have hcount : (first ++ none :: last).count none = 1 := by
    rw [← hgap, hperm.count_eq, List.count_append, List.count_cons_self, hfiles, hfiles]
  rw [List.count_append, List.count_cons_self] at hcount
  have hfirst : none ∉ first := List.count_eq_zero.1 (by omega)
  have hlast : none ∉ last := List.count_eq_zero.1 (by omega)
  have hfull {l : List (Option File)} (hl : none ∉ l) (content : List UInt8) :
      l.map (fill content) = l.map (fill []) := by
    refine List.map_congr_left fun f hf => ?_
    cases f with
    | none => exact absurd hf hl
    | some f => rfl
  refine ⟨first.map (fill []), last.map (fill []), fun content => ?_⟩
  rw [← hsorted, hgap, List.map_append, List.map_cons, hfull hfirst content, hfull hlast content]
  rfl

/-- The other Markdown files of a tree are listed as they are, whatever a file holds. -/
theorem Tree.Hole.exists_markdownFiles_fill (hole : Hole) : ∃ first last : List File, ∀ content,
    (hole.fill content).markdownFiles =
      first ++ [(⟨hole.names, content⟩ : File)].filter File.isMarkdown ++ last := by
  obtain ⟨before, after, hfiles⟩ := hole.exists_files_fill
  have hmarkdown (content : List UInt8) :
      File.isMarkdown ⟨hole.names, content⟩ = File.isMarkdown ⟨hole.names, []⟩ := rfl
  simp only [markdownFiles, hfiles, List.filter_append, List.filter_cons, List.filter_nil,
    hmarkdown]
  split
  · obtain ⟨first, last, hsorted⟩ := exists_mergeSort_eq (before.filter File.isMarkdown)
      (after.filter File.isMarkdown) hole.names
    exact ⟨first, last, fun content => by rw [hsorted, List.append_assoc, List.singleton_append]⟩
  · exact ⟨_, [], fun content => by rw [List.append_nil, List.append_nil]⟩

end Dossier.Folder

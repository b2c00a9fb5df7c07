import Dossier.Frontmatter.Split
import Dossier.Proofs.Text.Blank
import Dossier.Proofs.Text.Lines

/-!
# Where frontmatter ends

A text is split where its fences stand. Which line is a fence (`IsFence`), where a line stands
(`Text.IsLineAt`) and what the parts of a text are (`IsSplit`) is said of the characters alone,
without cutting a text into lines. A text is split if it begins with a fence and another one
follows, and its parts are then the only ones there are (`splits_at_fences`).
-/

namespace Dossier.Frontmatter

variable {text : String} {line opening closing : List Char} {lines yaml body : List (List Char)}
  {f : Frontmatter}

/-! ## Fences -/

/-- A line of three hyphens, up to blanks at its end. -/
def IsFence (line : List Char) : Prop :=
  ∃ blanks, Text.AreBlank blanks ∧ line = ['-', '-', '-'] ++ blanks

/-- Nothing is left of blanks at the end of a text that ends with another character. -/
theorem dropBlanksEnd_append (cs : List Char) {blanks : List Char} {c : Char}
    (hblanks : Text.AreBlank blanks)
    (hc : Text.isBlank c = false) : Text.dropBlanksEnd (cs ++ [c] ++ blanks) = cs ++ [c] := by
  have hdrop : blanks.reverse.dropWhile Text.isBlank = [] :=
    List.dropWhile_eq_nil_iff.2 fun b hb => hblanks b (List.mem_reverse.1 hb)
  have hstop : ([c] ++ cs.reverse).dropWhile Text.isBlank = [c] ++ cs.reverse :=
    List.dropWhile_cons_of_neg (by rw [hc]; exact Bool.false_ne_true)
  rw [Text.dropBlanksEnd, List.reverse_append, List.dropWhile_append, hdrop, List.reverse_append,
    List.reverse_singleton, if_pos List.isEmpty_nil, hstop, List.reverse_append,
    List.reverse_reverse]
  rfl

/-- A line is found to be a fence if it is one. -/
theorem isFence_iff : isFence line = true ↔ IsFence line := by
  rw [isFence, beq_iff_eq]
  constructor
  · intro h
    obtain ⟨blanks, hblanks, hline⟩ := Text.exists_dropBlanksEnd line
    rw [h] at hline
    exact ⟨blanks, hblanks, hline.symm⟩
  · rintro ⟨blanks, hblanks, rfl⟩
    exact dropBlanksEnd_append ['-', '-'] hblanks (by decide)

/-- Lines are split at the first fence among them. -/
theorem splitAtFence_eq_some_iff : splitAtFence lines = some (yaml, body) ↔
    ∃ closing, lines = yaml ++ closing :: body ∧ IsFence closing ∧ ∀ l ∈ yaml, ¬IsFence l := by
  induction lines generalizing yaml with
  | nil => simp [splitAtFence]
  | cons first lines ih =>
    rw [splitAtFence]
    split
    case isTrue hfence =>
      rw [isFence_iff] at hfence
      constructor
      · intro h
        cases h
        exact ⟨first, rfl, hfence, fun _ hl => (List.not_mem_nil hl).elim⟩
      · rintro ⟨closing, hlines, -, hyaml⟩
        cases yaml with
        | nil =>
          cases hlines
          rfl
        | cons l yaml =>
          cases hlines
          exact (hyaml _ (.head _) hfence).elim
    case isFalse hfence =>
      rw [isFence_iff] at hfence
      rw [Option.map_eq_some_iff]
      constructor
      · rintro ⟨⟨before, after⟩, hsplit, hparts⟩
        cases hparts
        obtain ⟨closing, rfl, hclosing, hbefore⟩ := ih.1 hsplit
        exact ⟨closing, rfl, hclosing, List.forall_mem_cons.2 ⟨hfence, hbefore⟩⟩
      · rintro ⟨closing, hlines, hclosing, hyaml⟩
        cases yaml with
        | nil =>
          cases hlines
          exact (hfence hclosing).elim
        | cons l yaml =>
          cases hlines
          exact ⟨(yaml, body), ih.2 ⟨closing, rfl, hclosing, fun l hl => hyaml l (.tail _ hl)⟩,
            rfl⟩

/-- Lines are split if a fence is among them. -/
theorem isSome_splitAtFence_iff : (splitAtFence lines).isSome = true ↔ ∃ l ∈ lines, IsFence l := by
  induction lines with
  | nil => simp [splitAtFence]
  | cons first lines ih =>
    rw [splitAtFence]
    split
    case isTrue hfence => exact iff_of_true rfl ⟨first, .head _, isFence_iff.1 hfence⟩
    case isFalse hfence =>
      rw [isFence_iff] at hfence
      simp [ih, hfence]

/-! ## The parts of a text -/

/-- `rest` is the text without its first character if that is a byte order mark, and the whole text
if not. -/
def IsUnmarked (text rest : List Char) : Prop :=
  text = '\ufeff' :: rest ∨ text = rest ∧ ∀ more, text ≠ '\ufeff' :: more

/-- A text that begins with a fence, after which another one stands. -/
def HasFrontmatter (rest : List Char) : Prop :=
  ∃ opening before closing after, rest = opening ++ before ++ closing ++ after ∧
    Text.IsLineAt [] opening (before ++ closing ++ after) ∧ IsFence opening ∧
    Text.IsLineAt (opening ++ before) closing after ∧ IsFence closing

/-- The parts of a text: the opening fence, the frontmatter, the closing fence and the body. -/
structure IsSplit (rest opening closing : List Char) (f : Frontmatter) : Prop where
  parts : rest = opening ++ f.yaml.toList ++ closing ++ f.body.toList
  opening_line : Text.IsLineAt [] opening (f.yaml.toList ++ closing ++ f.body.toList)
  opening_fence : IsFence opening
  /-- The frontmatter consists of whole lines, none of which is a fence. -/
  yaml_lines : ∃ lines : List (List Char), f.yaml.toList = lines.flatten ∧
    ∀ l ∈ lines, Text.IsClosedLine l ∧ ¬IsFence l
  closing_line : Text.IsLineAt (opening ++ f.yaml.toList) closing f.body.toList
  closing_fence : IsFence closing
  /-- Every other fence stands in the body. -/
  other_fences : ∀ before line after, rest = before ++ line ++ after →
    Text.IsLineAt before line after →
    IsFence line → before = [] ∨ before = opening ++ f.yaml.toList ∨
      ∃ earlier, before = opening ++ f.yaml.toList ++ closing ++ earlier ∧
      f.body.toList = earlier ++ line ++ after

/-- At most one byte order mark is dropped. -/
theorem isUnmarked_dropMark (text : List Char) : IsUnmarked text (Text.dropMark text) := by
  unfold Text.dropMark
  split
  case h_1 => exact .inl rfl
  case h_2 cs hmark => exact .inr ⟨rfl, fun more => hmark more⟩

/-- A text is split into its first line, the lines up to the next fence and those after it. -/
theorem split?_eq_some_iff : split? text = some f ↔
    ∃ opening yaml closing body,
      Text.lines (· == '\n') (Text.dropMark text.toList) = opening :: yaml ++ closing :: body ∧
      IsFence opening ∧ IsFence closing ∧ (∀ l ∈ yaml, ¬IsFence l) ∧
      f = ⟨ofLines yaml, ofLines body⟩ := by
  unfold split?
  split
  case h_1 hlines =>
    refine iff_of_false (fun h => nomatch h) ?_
    rintro ⟨opening, yaml, closing, body, hparts, -⟩
    rw [hlines] at hparts
    cases hparts
  case h_2 first rest hlines =>
    rw [hlines]
    split
    case isTrue hfence =>
      rw [Option.map_eq_some_iff]
      constructor
      · rintro ⟨⟨yaml, body⟩, hsplit, rfl⟩
        obtain ⟨closing, rfl, hclosing, hyaml⟩ := splitAtFence_eq_some_iff.1 hsplit
        exact ⟨first, yaml, closing, body, rfl, isFence_iff.1 hfence, hclosing, hyaml, rfl⟩
      · rintro ⟨opening, yaml, closing, body, hparts, -, hclosing, hyaml, rfl⟩
        cases hparts
        exact ⟨(yaml, body), splitAtFence_eq_some_iff.2 ⟨closing, rfl, hclosing, hyaml⟩, rfl⟩
    case isFalse hfence =>
      refine iff_of_false (fun h => nomatch h) ?_
      rintro ⟨opening, yaml, closing, body, hparts, hopening, -⟩
      cases hparts
      exact hfence (isFence_iff.2 hopening)

/-- A fence is not empty. -/
theorem IsFence.ne_nil (h : IsFence line) : line ≠ [] := by
  obtain ⟨blanks, -, rfl⟩ := h
  exact List.cons_ne_nil _ _

/-- A text is split if its first line and some later line are fences. -/
theorem isSome_split?_iff : (split? text).isSome = true ↔
    ∃ opening lines, Text.lines (· == '\n') (Text.dropMark text.toList) = opening :: lines ∧
    IsFence opening ∧
      ∃ l ∈ lines, IsFence l := by
  unfold split?
  split
  case h_1 hlines => simp [hlines]
  case h_2 first rest hlines =>
    rw [hlines]
    split
    case isTrue hfence =>
      rw [isFence_iff] at hfence
      rw [Option.isSome_map, isSome_splitAtFence_iff]
      constructor
      · exact fun hlater => ⟨first, rest, rfl, hfence, hlater⟩
      · rintro ⟨opening, lines, hparts, -, hlater⟩
        cases hparts
        exact hlater
    case isFalse hfence =>
      refine iff_of_false Bool.false_ne_true ?_
      rintro ⟨opening, lines, hparts, hopening, -⟩
      cases hparts
      exact hfence (isFence_iff.2 hopening)

/-- A text begins with a fence, after which another one stands, if its first line and some later
line are fences. -/
theorem hasFrontmatter_iff {rest : List Char} : HasFrontmatter rest ↔
    ∃ opening lines, Text.lines (· == '\n') rest = opening :: lines ∧ IsFence opening ∧
    ∃ l ∈ lines, IsFence l := by
  constructor
  · rintro ⟨opening, before, closing, after, rfl, hopening, hopens, hclosing, hcloses⟩
    -- The lines are those before the closing fence, which the opening one begins, and those from
    -- there on.
    cases hearlier : Text.lines (· == '\n') (opening ++ before) with
    | nil =>
      have hflatten := Text.flatten_lines (· == '\n') (opening ++ before)
      rw [hearlier] at hflatten
      exact (hopens.ne_nil (List.append_eq_nil_iff.1 hflatten.symm).1).elim
    | cons first earlier =>
      have hlines := hclosing.lines_eq
      have hfirst := hopening.lines_eq
      rw [hearlier] at hlines
      rw [List.nil_append, ← List.append_assoc, ← List.append_assoc, hlines] at hfirst
      obtain ⟨rfl, -⟩ := List.cons.inj hfirst
      exact ⟨first, _, hlines, hopens, closing, List.mem_append_right _ (.head _), hcloses⟩
  · rintro ⟨opening, lines, hlines, hopens, closing, hmem, hcloses⟩
    obtain ⟨earlier, later, rfl⟩ := List.append_of_mem hmem
    obtain ⟨-, hopening⟩ := Text.isLineAt_of_lines_eq [] hlines
    obtain ⟨-, hclosing⟩ := Text.isLineAt_of_lines_eq (opening :: earlier) hlines
    refine ⟨opening, earlier.flatten, closing, later.flatten, ?_, ?_, hopens, hclosing, hcloses⟩
    · rw [← Text.flatten_lines (· == '\n') rest, hlines]
      simp
    · simpa using hopening

/-- A fence among lines with two fences, of which the second follows lines without one, is the
first, is the second or comes after it. -/
theorem fence_cases {earlier later : List (List Char)}
    (hlines : earlier ++ line :: later = opening :: yaml ++ closing :: body)
    (hyaml : ∀ l ∈ yaml, ¬IsFence l) (hline : IsFence line) :
    earlier = [] ∨ earlier = opening :: yaml ∨
      ∃ between, earlier = opening :: yaml ++ closing :: between ∧
      body = between ++ line :: later := by
  rcases List.append_eq_append_iff.1 hlines
    with ⟨between, hyaml', hbetween⟩ | ⟨between, hearlier, hbetween⟩
  · cases between with
    | nil =>
      rw [List.append_nil] at hyaml'
      exact .inr (.inl hyaml'.symm)
    | cons l between =>
      cases hbetween
      cases earlier with
      | nil => exact .inl rfl
      | cons first earlier =>
        obtain ⟨-, rfl⟩ := List.cons.inj hyaml'
        exact (hyaml line (List.mem_append_right _ (.head _)) hline).elim
  · cases between with
    | nil =>
      rw [List.append_nil] at hearlier
      exact .inr (.inl hearlier)
    | cons l between =>
      cases hbetween
      exact .inr (.inr ⟨between, hearlier, rfl⟩)

/-- The text of lines has the characters of these lines. -/
theorem toList_ofLines (lines : List (List Char)) : (ofLines lines).toList = lines.flatten :=
  String.toList_ofList

/-- The lines of a text with two fences give its parts. -/
theorem isSplit_of_lines_eq {rest : List Char}
    (hlines : Text.lines (· == '\n') rest = opening :: yaml ++ closing :: body)
    (hopening : IsFence opening) (hclosing : IsFence closing) (hyaml : ∀ l ∈ yaml, ¬IsFence l) :
    IsSplit rest opening closing ⟨ofLines yaml, ofLines body⟩ := by
  have hparts : rest = opening ++ yaml.flatten ++ closing ++ body.flatten := by
    rw [← Text.flatten_lines (· == '\n') rest, hlines]
    simp
  obtain ⟨-, hopens⟩ := Text.isLineAt_of_lines_eq [] hlines
  obtain ⟨hclosed, hcloses⟩ := Text.isLineAt_of_lines_eq (opening :: yaml) hlines
  constructor
  case parts => rw [toList_ofLines, toList_ofLines, hparts]
  case opening_line =>
    rw [toList_ofLines, toList_ofLines]
    simpa using hopens
  case opening_fence => exact hopening
  case yaml_lines =>
    exact ⟨yaml, toList_ofLines yaml, fun l hl => ⟨hclosed l (.tail _ hl), hyaml l hl⟩⟩
  case closing_line =>
    rw [toList_ofLines, toList_ofLines]
    exact hcloses
  case closing_fence => exact hclosing
  case other_fences =>
    intro before line after hrest hplace hline
    rw [hrest, hplace.lines_eq] at hlines
    rw [toList_ofLines, toList_ofLines]
    have hbefore := Text.flatten_lines (· == '\n') before
    have hafter := Text.flatten_lines (· == '\n') after
    rcases fence_cases hlines hyaml hline with hfirst | hsecond | ⟨between, hbetween, hbody⟩
    · rw [hfirst] at hbefore
      exact .inl hbefore.symm
    · rw [hsecond] at hbefore
      exact .inr (.inl hbefore.symm)
    · refine .inr (.inr ⟨between.flatten, ?_, ?_⟩)
      · rw [← hbefore, hbetween]
        simp
      · rw [hbody, List.flatten_append, List.flatten_cons, hafter, List.append_assoc]

/-- The parts of a text give its lines. -/
theorem IsSplit.lines_eq {rest : List Char} (h : IsSplit rest opening closing f) :
    ∃ yaml, Text.lines (· == '\n') rest =
        opening :: yaml ++ closing :: Text.lines (· == '\n') f.body.toList ∧
      f.yaml.toList = yaml.flatten ∧ ∀ l ∈ yaml, ¬IsFence l := by
  obtain ⟨yaml, hyaml, hlines⟩ := h.yaml_lines
  refine ⟨yaml, ?_, hyaml, fun l hl => (hlines l hl).2⟩
  have hopening := h.opening_line.lines_eq
  have hclosing : Text.IsLineAt [] closing f.body.toList := ⟨.inl rfl, h.closing_line.ends⟩
  have hcloses := hclosing.lines_eq
  rw [List.nil_append] at hopening hcloses
  rw [h.parts, List.append_assoc, List.append_assoc, ← List.append_assoc f.yaml.toList,
    hopening, hyaml, List.append_assoc,
    Text.lines_flatten_append (fun l hl => (hlines l hl).1), hcloses]
  rfl

/-- **A text is split where its fences stand.** Without a byte order mark it has two parts, if it
begins with a fence and another one follows; these are the lines up to the first such fence, and
all that comes after it. -/
theorem splits_at_fences (text : String) :
    ∃ rest, IsUnmarked text.toList rest ∧ ((split? text).isSome = true ↔ HasFrontmatter rest) ∧
      ∀ f, split? text = some f ↔ ∃ opening closing, IsSplit rest opening closing f := by
  refine ⟨Text.dropMark text.toList, isUnmarked_dropMark _,
    isSome_split?_iff.trans hasFrontmatter_iff.symm, ?_⟩
  intro f
  rw [split?_eq_some_iff]
  constructor
  · rintro ⟨opening, yaml, closing, body, hlines, hopening, hclosing, hyaml, rfl⟩
    exact ⟨opening, closing, isSplit_of_lines_eq hlines hopening hclosing hyaml⟩
  · rintro ⟨opening, closing, h⟩
    obtain ⟨yaml, hlines, hyaml, hfences⟩ := h.lines_eq
    refine ⟨opening, yaml, closing, _, hlines, h.opening_fence, h.closing_fence, hfences, ?_⟩
    rw [ofLines, ofLines, Text.flatten_lines, ← hyaml, String.ofList_toList, String.ofList_toList]

/-- A later fence belongs to the body, with or without a line end. -/
example : split? "\ufeff---\r\nid: a\n--- \t\n\n---\n---" = some ⟨"id: a\n", "\n---\n---"⟩ := by
  decide

end Dossier.Frontmatter

import Dossier.Text.Lines

/-!
# Laws of lines

Bytes are cut into lines, each closed by its line end but perhaps the last (`AreLines`). Those of
some bytes make up these bytes (`flatten_byteLines`), and lines that are written one after another
are read back as they are (`byteLines_flatten`). Where bytes end with a line end, the lines of what
follows come after their own (`byteLines_append`).

The lines of characters are what stands at the places of lines (`IsLineAt`): what stands at such a
place is a line (`IsLineAt.lines_eq`), and every line stands at one (`isLineAt_of_lines_eq`).
-/

namespace Dossier.Text

section

variable {α : Type} {isEnd : α → Bool}

/-- The items before a line end belong to its line. -/
theorem linesAfter_append {body : List α} (hbody : ∀ a ∈ body, isEnd a = false)
    (line rest : List α) :
    linesAfter isEnd line (body ++ rest) = linesAfter isEnd (body.reverse ++ line) rest := by
  induction body generalizing line with
  | nil => rfl
  | cons a body ih =>
    have ha : ¬isEnd a = true := by rw [hbody a (.head _)]; exact Bool.false_ne_true
    rw [List.cons_append, linesAfter, if_neg ha, ih (fun b hb => hbody b (.tail _ hb)),
      List.reverse_cons, List.append_assoc, List.singleton_append]

/-- What follows a line end is cut by itself. -/
theorem linesAfter_append_end {a : α} (ha : isEnd a = true) (line text rest : List α) :
    linesAfter isEnd line (text ++ [a] ++ rest) =
      linesAfter isEnd line (text ++ [a]) ++ lines isEnd rest := by
  induction text generalizing line with
  | nil =>
    show linesAfter isEnd line (a :: rest) = linesAfter isEnd line [a] ++ _
    rw [linesAfter, if_pos ha, linesAfter, if_pos ha]
    rfl
  | cons b text ih =>
    rw [List.cons_append, List.cons_append, linesAfter, linesAfter]
    split
    · rw [ih, List.cons_append]
    · exact ih _

/-- Where the line end is not among some items, none of them is one. -/
theorem not_end_of_not_mem [BEq α] [LawfulBEq α] {a : α} {body : List α} (h : a ∉ body) :
    ∀ b ∈ body, (b == a) = false := by
  intro b hb
  rw [beq_eq_false_iff_ne]
  rintro rfl
  exact h hb

/-- No item is lost between the lines. -/
theorem flatten_linesAfter (line text : List α) :
    (linesAfter isEnd line text).flatten = line.reverse ++ text := by
  induction text generalizing line with
  | nil =>
    rw [linesAfter, List.append_nil]
    split
    case isTrue h => rw [List.isEmpty_iff.1 h]; rfl
    case isFalse => exact List.append_nil _
  | cons a text ih =>
    rw [linesAfter]
    split
    · rw [List.flatten_cons, ih, List.reverse_cons, List.append_assoc]
      rfl
    · rw [ih, List.reverse_cons, List.append_assoc]
      rfl

/-- The lines of a text make it up. -/
theorem flatten_lines (isEnd : α → Bool) (text : List α) : (lines isEnd text).flatten = text :=
  flatten_linesAfter [] text

end

/-! ## Lines of bytes -/

/-- A line with the line end that closes it. -/
def IsLine (line : List UInt8) : Prop := ∃ body, 10 ∉ body ∧ line = body ++ [10]

/-- Lines of which each is closed but perhaps the last. -/
inductive AreLines : List (List UInt8) → Prop
  | none : AreLines []
  | last {line} : line ≠ [] → 10 ∉ line → AreLines [line]
  | line {line lines} : IsLine line → AreLines lines → AreLines (line :: lines)

variable {line : List UInt8} {lines rest : List (List UInt8)}

/-- What follows the first line are lines. -/
theorem AreLines.tail (h : AreLines (line :: rest)) : AreLines rest := by
  cases h with
  | last => exact .none
  | line _ h => exact h

/-- What follows some line are lines. -/
theorem AreLines.of_append_cons (h : AreLines (lines ++ line :: rest)) : AreLines rest := by
  induction lines with
  | nil => exact h.tail
  | cons first lines ih => exact ih h.tail

/-- Lines written one after another are read back. -/
theorem byteLines_flatten (h : AreLines lines) : byteLines lines.flatten = lines := by
  induction h with
  | none => rfl
  | @last line hline h =>
    have hopen := linesAfter_append (not_end_of_not_mem h) [] []
    rw [List.append_nil, List.append_nil] at hopen
    rw [List.flatten_singleton, byteLines, Text.lines, hopen, linesAfter,
      List.isEmpty_reverse, if_neg, List.reverse_reverse]
    exact mt List.isEmpty_iff.1 hline
  | @line line lines h _ ih =>
    obtain ⟨body, hbody, rfl⟩ := h
    rw [List.flatten_cons, List.append_assoc, byteLines, Text.lines,
      linesAfter_append (not_end_of_not_mem hbody), List.append_nil]
    show (10 :: body.reverse).reverse :: byteLines lines.flatten = _
    rw [ih, List.reverse_cons, List.reverse_reverse]

/-- The lines of bytes make up these bytes. -/
theorem flatten_byteLines (bytes : List UInt8) : (byteLines bytes).flatten = bytes :=
  flatten_lines _ bytes

/-- Every line is closed but perhaps the last. -/
theorem areLines_byteLines (bytes : List UInt8) : AreLines (byteLines bytes) := by
  suffices hgeneral : ∀ line, 10 ∉ line → AreLines (linesAfter (· == 10) line bytes) from
    hgeneral [] List.not_mem_nil
  induction bytes with
  | nil =>
    intro line hline
    rw [linesAfter]
    split
    case isTrue => exact .none
    case isFalse h =>
      exact .last (fun h' => h (List.isEmpty_iff.2 (List.reverse_eq_nil_iff.1 h')))
        (mt List.mem_reverse.1 hline)
  | cons b bytes ih =>
    intro line hline
    rw [linesAfter]
    split
    case isTrue h =>
      refine .line ⟨line.reverse, mt List.mem_reverse.1 hline, ?_⟩ (ih [] List.not_mem_nil)
      rw [List.reverse_cons, beq_iff_eq.1 h]
    case isFalse h =>
      refine ih _ fun hmem => ?_
      rcases List.mem_cons.1 hmem with rfl | hmem
      · exact h rfl
      · exact hline hmem

/-- After a line end the lines are those of what follows. -/
theorem byteLines_append (a b : List UInt8) :
    byteLines (a ++ [10] ++ b) = byteLines (a ++ [10]) ++ byteLines b :=
  linesAfter_append_end rfl [] a b

/-! ## Lines of characters -/

section

variable {text before line after : List Char} {lines rest : List (List Char)}

/-- A line of characters with the line end that closes it. -/
def IsClosedLine (line : List Char) : Prop := ∃ body, '\n' ∉ body ∧ line = body ++ ['\n']

/-- A place where a line may begin: the start of a text, or after a line end. -/
def IsLineStart (before : List Char) : Prop := before = [] ∨ ∃ earlier, before = earlier ++ ['\n']

/-- A line that stands between `before` and `after`. It lacks its line end only where the text ends
with it. -/
structure IsLineAt (before line after : List Char) : Prop where
  starts : IsLineStart before
  ends : IsClosedLine line ∨ line ≠ [] ∧ '\n' ∉ line ∧ after = []

/-- A closed line is the first of what it begins. -/
theorem IsClosedLine.lines_append (h : IsClosedLine line) (after : List Char) :
    Text.lines (· == '\n') (line ++ after) = line :: Text.lines (· == '\n') after := by
  obtain ⟨body, hbody, rfl⟩ := h
  rw [List.append_assoc, Text.lines, linesAfter_append (not_end_of_not_mem hbody), List.append_nil]
  show ('\n' :: body.reverse).reverse :: _ = _
  rw [List.reverse_cons, List.reverse_reverse]
  rfl

/-- Characters without a line end are one line. -/
theorem lines_of_not_mem (hline : line ≠ []) (h : '\n' ∉ line) :
    Text.lines (· == '\n') line = [line] := by
  have hopen := linesAfter_append (not_end_of_not_mem h) [] []
  rw [List.append_nil, List.append_nil] at hopen
  rw [Text.lines, hopen, linesAfter, List.isEmpty_reverse, if_neg (mt List.isEmpty_iff.1 hline),
    List.reverse_reverse]

/-- Closed lines are the first of what they begin. -/
theorem lines_flatten_append (h : ∀ line ∈ lines, IsClosedLine line) (after : List Char) :
    Text.lines (· == '\n') (lines.flatten ++ after) = lines ++ Text.lines (· == '\n') after := by
  induction lines with
  | nil => rfl
  | cons first lines ih =>
    rw [List.flatten_cons, List.append_assoc, (h _ (.head _)).lines_append,
      ih fun l hl => h l (.tail _ hl), List.cons_append]

/-- Where a line may begin, the lines of what follows come after those before. -/
theorem IsLineStart.lines_append (h : IsLineStart before) (after : List Char) :
    Text.lines (· == '\n') (before ++ after) =
      Text.lines (· == '\n') before ++ Text.lines (· == '\n') after := by
  rcases h with rfl | ⟨earlier, rfl⟩
  · rfl
  · exact linesAfter_append_end rfl [] earlier after

/-- What stands at the place of a line is a line. -/
theorem IsLineAt.lines_eq (h : IsLineAt before line after) :
    Text.lines (· == '\n') (before ++ line ++ after) =
      Text.lines (· == '\n') before ++ line :: Text.lines (· == '\n') after := by
  rw [List.append_assoc, h.starts.lines_append]
  rcases h.ends with hclosed | ⟨hline, hopen, rfl⟩
  · rw [hclosed.lines_append]
  · rw [List.append_nil, lines_of_not_mem hline hopen]
    rfl

/-- The first line is closed or is all of the text, and the other lines are those of what follows
it. -/
theorem lines_eq_cons (h : Text.lines (· == '\n') text = line :: rest) :
    (IsClosedLine line ∨ line ≠ [] ∧ '\n' ∉ line ∧ rest = []) ∧
    Text.lines (· == '\n') rest.flatten = rest := by
  by_cases hend : '\n' ∈ text
  case pos =>
    obtain ⟨body, after, rfl, hbody⟩ := List.eq_append_cons_of_mem hend
    have hclosed : IsClosedLine (body ++ ['\n']) := ⟨body, hbody, rfl⟩
    rw [← List.singleton_append, ← List.append_assoc, hclosed.lines_append] at h
    obtain ⟨rfl, rfl⟩ := List.cons.inj h
    exact ⟨.inl hclosed, by rw [flatten_lines]⟩
  case neg =>
    have htext : text ≠ [] := by
      rintro rfl
      cases h
    rw [lines_of_not_mem htext hend] at h
    obtain ⟨rfl, rfl⟩ := List.cons.inj h
    exact ⟨.inr ⟨htext, hend, rfl⟩, rfl⟩

/-- Every line stands at the place of a line, after closed lines. -/
theorem isLineAt_of_lines_eq (lines : List (List Char))
    (h : Text.lines (· == '\n') text = lines ++ line :: rest) :
    (∀ l ∈ lines, IsClosedLine l) ∧ IsLineAt lines.flatten line rest.flatten := by
  induction lines generalizing text with
  | nil =>
    obtain ⟨hline, -⟩ := lines_eq_cons h
    refine ⟨fun _ hl => (List.not_mem_nil hl).elim, .inl rfl, ?_⟩
    rcases hline with hclosed | ⟨hline, hopen, rfl⟩
    · exact .inl hclosed
    · exact .inr ⟨hline, hopen, rfl⟩
  | cons first lines ih =>
    obtain ⟨hfirst, hrest⟩ := lines_eq_cons h
    obtain hfirst | ⟨-, -, hnil⟩ := hfirst
    case inr => exact (List.append_ne_nil_of_right_ne_nil _ (List.cons_ne_nil _ _) hnil).elim
    obtain ⟨hlines, hplace⟩ := ih hrest
    refine ⟨List.forall_mem_cons.2 ⟨hfirst, hlines⟩, ?_, hplace.ends⟩
    obtain ⟨body, -, rfl⟩ := hfirst
    rcases hplace.starts with hnil | ⟨earlier, hearlier⟩
    · exact .inr ⟨body, by rw [List.flatten_cons, hnil, List.append_nil]⟩
    · exact .inr
        ⟨body ++ ['\n'] ++ earlier, by rw [List.flatten_cons, hearlier, ← List.append_assoc]⟩

end

end Dossier.Text

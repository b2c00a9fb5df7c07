import Mathlib.Data.List.TakeWhile
import Dossier.Text.Blank

/-!
# Laws of trimming

A text is what is left of it by trimming, between blanks (`exists_trim`). The blanks are none of
the characters that ASCII shows (`toNat_of_isBlank`).
-/

namespace Dossier.Text

variable {c : Char}

/-- The blanks lie below and above the characters that ASCII shows. -/
theorem toNat_of_isBlank (h : isBlank c = true) : c.toNat ≤ 0x20 ∨ 0x85 ≤ c.toNat := by
  simp only [isBlank, Bool.or_eq_true, Bool.and_eq_true, beq_iff_eq, decide_eq_true_eq] at h
  rcases h with (((((((((rfl | h) | rfl) | rfl) | rfl) | h) | rfl) | rfl) | rfl) | rfl) | rfl
  case inl.inl.inl.inl.inl.inl.inl.inl.inl.inr => exact .inl (by omega)
  case inl.inl.inl.inl.inl.inr => exact .inr (by omega)
  all_goals decide

/-- A digit is not blank. -/
theorem isBlank_of_isDigit (hc : c.isDigit = true) : isBlank c = false := by
  have hzero : '0'.toNat = 48 := rfl
  have hnine : '9'.toNat = 57 := rfl
  obtain ⟨hlow, hhigh⟩ := Char.isDigit_iff_toNat.1 hc
  refine Bool.eq_false_iff.2 fun h => ?_
  have hcode := toNat_of_isBlank h
  omega

/-- A text of nothing but blanks. -/
def AreBlank (cs : List Char) : Prop := ∀ c ∈ cs, isBlank c = true

/-- The blanks at the start of a text stand before what is left without them. -/
theorem exists_dropBlanks (cs : List Char) :
    ∃ front, AreBlank front ∧ front ++ dropBlanks cs = cs :=
  ⟨cs.takeWhile isBlank, fun _ hc => List.all_eq_true.1 List.all_takeWhile _ hc,
    List.takeWhile_append_dropWhile⟩

/-- The blanks at the end of a text stand after what is left without them. -/
theorem exists_dropBlanksEnd (cs : List Char) :
    ∃ back, AreBlank back ∧ dropBlanksEnd cs ++ back = cs := by
  obtain ⟨front, hfront, happend⟩ := exists_dropBlanks cs.reverse
  refine ⟨front.reverse, fun c hc => hfront c (List.mem_reverse.1 hc), ?_⟩
  rw [dropBlanksEnd, ← List.reverse_append]
  exact List.reverse_eq_iff.2 happend

/-- What trimming leaves of a text stands between blanks. -/
theorem exists_trim (text : String) : ∃ front back, AreBlank front ∧ AreBlank back ∧
    text.toList = front ++ (trim text).toList ++ back := by
  obtain ⟨front, hfront, happend⟩ := exists_dropBlanks text.toList
  obtain ⟨back, hback, happend'⟩ := exists_dropBlanksEnd (dropBlanks text.toList)
  refine ⟨front, back, hfront, hback, ?_⟩
  rw [trim, String.toList_ofList, trimChars, List.append_assoc, happend', happend]

/-- Nothing is left of a text by trimming if it is blank. -/
theorem isEmpty_trim (text : String) : (trim text).isEmpty = isAllBlank text := by
  rw [Bool.eq_iff_iff, String.isEmpty_iff]
  constructor
  · intro hempty
    obtain ⟨front, back, hfront, hback, htext⟩ := exists_trim text
    rw [hempty, String.toList_empty, List.append_nil] at htext
    rw [isAllBlank, htext, List.all_eq_true]
    exact List.forall_mem_append.2 ⟨hfront, hback⟩
  · intro hblank
    have hdrop : dropBlanks text.toList = [] :=
      List.dropWhile_eq_nil_iff.2 (List.all_eq_true.1 hblank)
    rw [trim, trimChars, hdrop]
    rfl

end Dossier.Text

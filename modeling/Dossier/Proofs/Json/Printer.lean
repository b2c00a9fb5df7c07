import Dossier.Json.Printer

/-!
# Written values are without control characters

What a value is written as on one line holds no character below the blank (`isPlain_compact`):
digits and punctuation are none, and those in strings are escaped. So it holds no line end.
-/

namespace Dossier.Json

/-- A text without control characters. -/
def IsPlain (cs : List Char) : Prop := ∀ c ∈ cs, ' ' ≤ c

instance (cs : List Char) : Decidable (IsPlain cs) := List.decidableBAll _ cs

variable {cs ds : List Char}

theorem IsPlain.append (hcs : IsPlain cs) (hds : IsPlain ds) : IsPlain (cs ++ ds) :=
  List.forall_mem_append.2 ⟨hcs, hds⟩

theorem IsPlain.cons {c : Char} (hc : ' ' ≤ c) (hcs : IsPlain cs) : IsPlain (c :: cs) :=
  List.forall_mem_cons.2 ⟨hc, hcs⟩

/-! ## Numbers -/

/-- Digits are no control characters. -/
theorem isPlain_toDigits (n : Nat) : IsPlain (Nat.toDigits 10 n) := by
  intro c hc
  have hdigit := Nat.isDigit_of_mem_toDigits (by decide) (Nat.le_refl 10) hc
  obtain ⟨hzero, -⟩ := Char.isDigit_iff_toNat.1 hdigit
  exact Nat.le_trans (by decide : ' '.toNat ≤ '0'.toNat) hzero

/-- Zeros are no control characters. -/
theorem isPlain_zeros (n : Nat) : IsPlain (List.replicate n '0') := by
  intro c hc
  rw [List.eq_of_mem_replicate hc]
  decide

theorem isPlain_take (h : IsPlain cs) (n : Nat) : IsPlain (cs.take n) :=
  fun c hc => h c (List.mem_of_mem_take hc)

theorem isPlain_drop (h : IsPlain cs) (n : Nat) : IsPlain (cs.drop n) :=
  fun c hc => h c (List.mem_of_mem_drop hc)

/-- A decimal is written without control characters, in any style. -/
theorem isPlain_write (style : Decimal.Style) (d : Decimal.Scaled) :
    IsPlain (style.write d).toList := by
  have hdigits := isPlain_toDigits d.digits
  unfold Decimal.Style.write
  rw [String.toList_ofList]
  split
  · split
    · exact (hdigits.append (isPlain_zeros _)).append (by decide)
    · split
      · exact (isPlain_take hdigits _).append (.cons (by decide) (isPlain_drop hdigits _))
      · exact (IsPlain.append (by decide) (isPlain_zeros _)).append hdigits
  · refine (((isPlain_take hdigits _).append ?_).append ?_).append (isPlain_toDigits _)
    · split
      · exact fun _ hc => nomatch hc
      · exact .cons (by decide) (isPlain_drop hdigits _)
    · split <;> decide

/-- A fractional number is written without control characters. -/
theorem isPlain_floatText (x : Float) : IsPlain (floatText x).toList := by
  unfold floatText Decimal.Style.text?
  split
  case h_1 negative m q _ =>
    have htext : IsPlain
        (if m == 0 then "0.0" else numberStyle.write (Decimal.shortest m q)).toList := by
      split
      · decide
      · exact isPlain_write _ _
    rw [Option.getD_some]
    split
    · rw [String.toList_append]
      exact .append (by decide) htext
    · exact htext
  case h_2 => decide

/-- A whole number is written without control characters. -/
theorem isPlain_int (i : Int) : IsPlain (toString i).toList := by
  rw [Int.toString_eq_repr]
  cases i with
  | ofNat n =>
    show IsPlain n.repr.toList
    rw [Nat.toList_repr]
    exact isPlain_toDigits n
  | negSucc n =>
    show IsPlain ("-" ++ (n + 1).repr).toList
    rw [String.toList_append, Nat.toList_repr]
    exact .append (by decide) (isPlain_toDigits _)

/-! ## Strings -/

/-- The digits of the numbers below sixteen are no control characters. -/
theorem le_hexDigit (n : Nat) : ' ' ≤ hexDigit n := by
  have hdigits : ∀ d : Fin 16, ' ' ≤ Nat.digitChar d := by decide
  exact hdigits ⟨n % 16, Nat.mod_lt n (by decide)⟩

/-- What stands for a character inside a string is without control characters. -/
theorem isPlain_escapedChar (c : Char) : IsPlain (escapedChar c) := by
  unfold escapedChar
  iterate 7
    split
    · decide
  split
  · have hmark : IsPlain ['\\', 'u', '0', '0'] := by decide
    exact hmark.append (.cons (le_hexDigit _) (.cons (le_hexDigit _) fun _ hc => nomatch hc))
  case isFalse hge =>
    exact .cons (Nat.le_of_not_lt hge) fun _ hc => nomatch hc

/-- A string between quotes is without control characters. -/
theorem isPlain_quoted (s : String) : IsPlain (quoted s).toList := by
  rw [quoted, String.toList_ofList]
  refine .cons (by decide) (.append (fun c hc => ?_) (by decide))
  obtain ⟨d, -, hd⟩ := List.mem_flatMap.1 hc
  exact isPlain_escapedChar d c hd

/-! ## Values -/

mutual

/-- **A value on one line is without control characters.** -/
theorem isPlain_compact : ∀ v : Value, IsPlain v.compact.toList
  | .null => by decide
  | .bool true => by decide
  | .bool false => by decide
  | .int i => isPlain_int i
  | .float x => isPlain_floatText x
  | .string s => isPlain_quoted s
  | .array items => by
    rw [Value.compact, String.toList_append, String.toList_append]
    exact .append (.append (by decide) (isPlain_compactItems items)) (by decide)
  | .object members => by
    rw [Value.compact, String.toList_append, String.toList_append]
    exact .append (.append (by decide) (isPlain_compactMembers members)) (by decide)

/-- Items are written without control characters. -/
theorem isPlain_compactItems : ∀ items : List Value, IsPlain (compactItems items).toList
  | [] => by decide
  | [v] => isPlain_compact v
  | v :: w :: rest => by
    rw [compactItems, String.toList_append, String.toList_append]
    · exact .append (.append (isPlain_compact v) (by decide)) (isPlain_compactItems (w :: rest))
    · exact fun h => nomatch h

/-- Members are written without control characters. -/
theorem isPlain_compactMembers : ∀ members : Members, IsPlain (compactMembers members).toList
  | [] => by decide
  | [(k, v)] => by
    rw [compactMembers, String.toList_append, String.toList_append]
    exact .append (.append (isPlain_quoted k) (by decide)) (isPlain_compact v)
  | (k, v) :: m :: rest => by
    rw [compactMembers, String.toList_append, String.toList_append, String.toList_append,
      String.toList_append]
    · exact .append (.append (.append (.append (isPlain_quoted k) (by decide)) (isPlain_compact v))
        (by decide))
        (isPlain_compactMembers (m :: rest))
    · exact fun h => nomatch h

end

/-- A value on one line is one line. -/
theorem not_mem_compact (v : Value) : '\n' ∉ v.compact.toList := fun h =>
  absurd (isPlain_compact v '\n' h) (by decide)

end Dossier.Json

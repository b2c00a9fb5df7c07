import Dossier.Json.Printer
import Dossier.Proofs.Decimal.RoundTrip
import Dossier.Yaml.Scalar

/-!
# Numbers as plain scalars

The text of a whole number of 64 bits, with or without sign, spells that number (`ofPlain?_int`),
and the text of a finite double spells that double (`ofPlain?_float`). So a plain scalar, which is
kept as a string by the text of its number, is kept as it is if and only if it is no number or is
the text of one (`keptText_eq_self_iff`).
-/

namespace Dossier

/-! ## Digits -/

namespace Text

variable {cs : List Char} {c : Char}

/-- The values of decimal digits are those of hexadecimal digits. -/
theorem mapM_hexValue? (h : Decimal.AreDigits cs) :
    cs.mapM hexValue? = some (cs.map digitValue) := by
  induction cs with
  | nil => rfl
  | cons c rest ih =>
    have hc : hexValue? c = some (digitValue c) := if_pos (h c (.head _))
    rw [List.mapM_cons, hc, ih fun d hd => h d (.tail _ hd)]
    rfl

/-- The digits of a number spell it in base ten. -/
theorem readDigits?_toDigits (n : Nat) : readDigits? 10 (Nat.toDigits 10 n) = some n := by
  have hdigits := Decimal.areDigits_toDigits n
  have hwritten := ofDigits_toDigits n
  have hne : Nat.toDigits 10 n ≠ [] := Nat.toDigits_ne_nil
  generalize Nat.toDigits 10 n = digits at *
  have hany : (digits.map digitValue).any (10 ≤ ·) = false := by
    rw [List.any_eq_false]
    intro d hd
    obtain ⟨c, hc, rfl⟩ := List.mem_map.1 hd
    simpa using digitValue_lt_ten (hdigits c hc)
  have hsome : (digits.map digitValue).isEmpty = false := by simpa using hne
  unfold readDigits?
  rw [mapM_hexValue? hdigits]
  simp only [Option.bind_eq_bind, Option.bind_some, hany, hsome, Bool.or_self, List.foldl_map]
  exact congrArg some hwritten

/-- A character that is no decimal digit has no value below ten. -/
theorem le_of_hexValue? {d : Nat} (hc : c.isDigit = false) (h : hexValue? c = some d) :
    10 ≤ d := by
  unfold hexValue? at h
  rw [if_neg (by simp [hc])] at h
  split at h
  · cases h
    exact Nat.le_add_left ..
  · split at h
    · cases h
      exact Nat.le_add_left ..
    · cases h

/-- Every hexadecimal digit has its value among those that are read. -/
theorem exists_hexValue?_of_mem {values : List Nat} (h : cs.mapM hexValue? = some values)
    (hmem : c ∈ cs) : ∃ d ∈ values, hexValue? c = some d := by
  induction cs generalizing values with
  | nil => exact absurd hmem List.not_mem_nil
  | cons first rest ih =>
    rw [List.mapM_cons] at h
    obtain ⟨d, hd, h⟩ := Option.bind_eq_some_iff.1 h
    obtain ⟨ds, hds, h⟩ := Option.bind_eq_some_iff.1 h
    cases h
    rcases List.mem_cons.1 hmem with rfl | hmem
    · exact ⟨d, .head _, hd⟩
    · obtain ⟨e, he, hvalue⟩ := ih hds hmem
      exact ⟨e, .tail _ he, hvalue⟩

/-- A text with a character that is no decimal digit spells no number in base ten. -/
theorem readDigits?_eq_none (hmem : c ∈ cs) (hc : c.isDigit = false) :
    readDigits? 10 cs = none := by
  unfold readDigits?
  cases hvalues : cs.mapM hexValue? with
  | none => rfl
  | some values =>
    obtain ⟨d, hd, hvalue⟩ := exists_hexValue?_of_mem hvalues hmem
    have hany : values.any (10 ≤ ·) = true :=
      List.any_eq_true.2 ⟨d, hd, by simpa using le_of_hexValue? hc hvalue⟩
    simp only [Option.bind_eq_bind, Option.bind_some, hany, Bool.or_true]
    rfl

end Text

namespace Yaml

open Text

variable {cs rest : List Char} {c : Char}

/-! ## Whole numbers -/

/-- A text without the letters that mark a base is in no base but ten. -/
theorem readBased?_eq_none (h : ∀ c ∈ cs, c ∉ ['x', 'o', 'b']) : readBased? cs = none := by
  unfold readBased?
  split
  · exact absurd (h 'x' (by simp)) (by decide)
  · exact absurd (h 'o' (by simp)) (by decide)
  · exact absurd (h 'b' (by simp)) (by decide)
  · rfl

/-- A text that begins with a digit is read without a sign. -/
theorem readUnsigned?_digit (hc : c.isDigit = true) (h : ∀ d ∈ c :: rest, d ∉ ['x', 'o', 'b']) :
    readUnsigned? (c :: rest) = if hasLeadingZero (c :: rest) then none
    else readDigits? 10 (c :: rest) := by
  unfold readUnsigned?
  split
  case h_1 heq =>
    cases heq
    cases hc
  case h_2 => simp only [readBased?_eq_none h]

/-- A text that begins with a digit has no minus sign. -/
theorem readNegative?_digit (hc : c.isDigit = true) : readNegative? (c :: rest) = none := by
  unfold readNegative?
  split
  case h_1 heq =>
    cases heq
    cases hc
  case h_2 => rfl

/-- A text with a minus sign is not read without it. -/
theorem readUnsigned?_minus : readUnsigned? ('-' :: cs) = none := by
  have hdigits : readDigits? 10 ('-' :: cs) = none := readDigits?_eq_none (.head _) rfl
  have hunsigned : readUnsigned? ('-' :: cs) =
      if hasLeadingZero ('-' :: cs) then none else readDigits? 10 ('-' :: cs) := rfl
  rw [hunsigned, hdigits, ite_self]

/-- After a minus sign a text is read in base ten. -/
theorem readNegative?_minus (h : ∀ c ∈ cs, c ∉ ['x', 'o', 'b']) :
    readNegative? ('-' :: cs) = if hasLeadingZero cs then none else readDigits? 10 cs := by
  simp only [readNegative?, readBased?_eq_none h]

/-- The digits of a number begin with a zero only if they are no more. -/
theorem head?_toDigits {n : Nat} (h : 1 < (Nat.toDigits 10 n).length) :
    (Nat.toDigits 10 n).head? ≠ some '0' := by
  have hwritten := ofDigits_toDigits n
  have hdigits := Decimal.areDigits_toDigits n
  cases hcs : Nat.toDigits 10 n with
  | nil => exact fun hzero => nomatch hzero
  | cons c rest =>
    rintro ⟨⟩
    rw [hcs] at h hwritten hdigits
    have hpositive : 0 < rest.length := Nat.lt_of_succ_lt_succ h
    have hrest : ofDigits rest = n := (ofDigits_zeros_append 1 rest).symm.trans hwritten
    have hlt : n < 10 ^ rest.length := by
      rw [← hrest]
      exact ofDigits_lt ⟨rfl, fun d hd => hdigits d (.tail _ hd)⟩
    have hlength := (Nat.length_toDigits_le_iff (by decide) hpositive).2 hlt
    rw [hcs, List.length_cons] at hlength
    omega

/-- The digits of a number have no zero before them. -/
theorem hasLeadingZero_toDigits (n : Nat) : hasLeadingZero (Nat.toDigits 10 n) = false := by
  have hhead := head?_toDigits (n := n)
  have hdigits := Decimal.areDigits_toDigits n
  generalize Nat.toDigits 10 n = digits at *
  unfold hasLeadingZero
  split
  case h_1 => exact absurd (hdigits _ (.head _)) (by decide)
  case h_2 => exact absurd (hdigits _ (.head _)) (by decide)
  case h_3 =>
    rw [← Bool.not_eq_true]
    simp only [Bool.and_eq_true, decide_eq_true_eq, beq_iff_eq]
    exact fun hall => hhead hall.1.1 hall.1.2

/-- The digits of a number are no letters that mark a base. -/
theorem not_mem_letters_of_isDigit {c : Char} (hc : c.isDigit = true) : c ∉ ['x', 'o', 'b'] := by
  intro hletter
  simp only [List.mem_cons, List.not_mem_nil, or_false] at hletter
  rcases hletter with rfl | rfl | rfl <;> cases hc

/-- The digits of a number below `2 ^ 64` spell it. -/
theorem readWhole?_nat {n : Nat} (h : n < 2 ^ 64) :
    readWhole? (Nat.toDigits 10 n) = some (.fits n) := by
  have hunsigned : readUnsigned? (Nat.toDigits 10 n) = some n := by
    have hread := readDigits?_toDigits n
    have hzero := hasLeadingZero_toDigits n
    have hdigits := Decimal.areDigits_toDigits n
    cases hcs : Nat.toDigits 10 n with
    | nil => exact absurd hcs Nat.toDigits_ne_nil
    | cons c rest =>
      rw [hcs] at hread hzero hdigits
      have hletters : ∀ d ∈ c :: rest, d ∉ ['x', 'o', 'b'] := fun d hd =>
        not_mem_letters_of_isDigit (hdigits d hd)
      rw [readUnsigned?_digit (hdigits c (.head _)) hletters, hzero, hread]
      rfl
  rw [readWhole?, hunsigned]
  exact if_pos h

/-- The digits of a number up to `2 ^ 63` spell its opposite after a minus sign. -/
theorem readWhole?_negative {n : Nat} (h : n ≤ 2 ^ 63) :
    readWhole? ('-' :: Nat.toDigits 10 n) = some (.fits (-(n : Int))) := by
  have hnegative : readNegative? ('-' :: Nat.toDigits 10 n) = some n := by
    rw [readNegative?_minus fun d hd => not_mem_letters_of_isDigit
      (Decimal.areDigits_toDigits n d hd), hasLeadingZero_toDigits, readDigits?_toDigits]
    rfl
  rw [readWhole?, readUnsigned?_minus, hnegative]
  exact if_pos h

/-! ## Numbers -/

/-- A text that begins with a digit or a minus sign. -/
def BeginsNumber (cs : List Char) : Prop := ∃ c rest, cs = c :: rest ∧ (c.isDigit = true ∨ c = '-')

/-- What begins a number is none of the words that begin otherwise. -/
theorem BeginsNumber.contains_eq_false {words : List String} {text : String}
    (h : BeginsNumber text.toList)
    (hwords : (words.any fun word => word.toList.head?.any fun c => c.isDigit || c == '-') =
      false) :
    words.contains text = false := by
  obtain ⟨c, rest, htext, hc⟩ := h
  rw [List.contains_eq_mem, decide_eq_false_iff_not]
  intro hmem
  have hhead := List.any_eq_false.1 hwords text hmem
  rw [htext] at hhead
  exact hhead (by simpa using hc)

/-- What begins a number stands neither for nothing nor for a truth value. -/
theorem BeginsNumber.not_word {text : String} (h : BeginsNumber text.toList) :
    text.isEmpty = false ∧ spellsNull text = false ∧ readBool? text = none := by
  have htrue : ["true", "True", "TRUE"].contains text = false := h.contains_eq_false (by decide)
  have hfalse : ["false", "False", "FALSE"].contains text = false :=
    h.contains_eq_false (by decide)
  refine ⟨?_, h.contains_eq_false (by decide), ?_⟩
  · obtain ⟨c, rest, htext, -⟩ := h
    rw [← Bool.not_eq_true, String.isEmpty_iff]
    rintro rfl
    cases htext
  · rw [readBool?, htrue, hfalse]
    rfl

/-- What begins a number and spells a whole number stands for it. -/
theorem BeginsNumber.ofPlain?_whole {text : String} {i : Int} (h : BeginsNumber text.toList)
    (hread : readWhole? text.toList = some (.fits i)) : Scalar.ofPlain? text = some (.int i) := by
  obtain ⟨hempty, hnull, hbool⟩ := h.not_word
  rw [Scalar.ofPlain?, hempty, hnull, hbool, hread]
  rfl

/-- The digits of a number begin a number. -/
theorem beginsNumber_toDigits (n : Nat) : BeginsNumber (Nat.toDigits 10 n) := by
  obtain ⟨c, rest, hcs⟩ := List.exists_cons_of_ne_nil (Nat.toDigits_ne_nil (b := 10) (n := n))
  exact ⟨c, rest, hcs, .inl (Decimal.areDigits_toDigits n c (by rw [hcs]; exact .head _))⟩

/-- A number that is not negative is written by its digits. -/
theorem toList_toString_nat (n : Nat) : (toString (n : Int)).toList = Nat.toDigits 10 n := by
  rw [Int.toString_eq_repr]
  exact Nat.toList_repr

/-- A negative number is written by the digits of its opposite after a minus sign. -/
theorem toList_toString_negSucc (n : Nat) :
    (toString (Int.negSucc n)).toList = '-' :: Nat.toDigits 10 (n + 1) := by
  show ("-" ++ (n + 1).repr).toList = _
  rw [String.toList_append, Nat.toList_repr]
  rfl

/-- The text of a whole number begins a number. -/
theorem beginsNumber_int (i : Int) : BeginsNumber (toString i).toList := by
  cases i with
  | ofNat n => exact (toList_toString_nat n).symm ▸ beginsNumber_toDigits n
  | negSucc n => exact ⟨'-', _, toList_toString_negSucc n, .inr rfl⟩

/-- The text of a whole number of sixty-four bits, with or without sign, spells the number. -/
theorem ofPlain?_int {i : Int} (hlow : -2 ^ 63 ≤ i) (hhigh : i < 2 ^ 64) :
    Scalar.ofPlain? (toString i) = some (.int i) := by
  apply (beginsNumber_int i).ofPlain?_whole
  cases i with
  | ofNat n =>
    rw [Int.ofNat_eq_natCast, toList_toString_nat]
    exact readWhole?_nat (Int.ofNat_lt.1 hhigh)
  | negSucc n =>
    rw [toList_toString_negSucc, Int.negSucc_eq]
    exact readWhole?_negative (by omega)

/-! ## Fractional numbers -/

variable {text : String} {x : Float}

/-- A text with a character that is neither a digit nor a sign has no zero before its digits. -/
theorem hasLeadingZero_of_mem (hmem : c ∈ cs) (hc : c.isDigit = false) (hsign : c ∉ ['-', '+']) :
    hasLeadingZero cs = false := by
  have hpadded {ds : List Char} (h : c ∈ ds) :
      (ds.length > 1 && ds.head? == some '0' && ds.all Char.isDigit) = false := by
    rw [List.all_eq_false.2 ⟨c, h, by simp [hc]⟩, Bool.and_false]
  unfold hasLeadingZero
  split
  case h_1 => exact hpadded ((List.mem_cons.1 hmem).resolve_left fun heq => hsign (by simp [heq]))
  case h_2 => exact hpadded ((List.mem_cons.1 hmem).resolve_left fun heq => hsign (by simp [heq]))
  case h_3 => exact hpadded hmem

/-- The text of a decimal has a character that is neither a digit nor a sign. -/
theorem exists_mark (h : Decimal.IsNotation cs) :
    ∃ m ∈ cs, m.isDigit = false ∧ m ∉ ['-', '+'] := by
  rcases h.mark with hpoint | hexponent
  · exact ⟨'.', hpoint, rfl, by decide⟩
  · exact ⟨'e', hexponent, rfl, by decide⟩

/-- The text of a decimal spells no whole number, with a minus sign or without. -/
theorem readWhole?_of_isNotation (h : Decimal.IsNotation cs) :
    readWhole? cs = none ∧ readWhole? ('-' :: cs) = none := by
  obtain ⟨m, hmem, hm, -⟩ := exists_mark h
  have hapart : ∀ d ∈ ['.', 'e', '+', '-'], d ∉ ['x', 'o', 'b'] := by simp
  have hletters : ∀ d ∈ cs, d ∉ ['x', 'o', 'b'] := by
    intro d hd
    rcases h.plain d hd with hdigit | hsign
    · exact not_mem_letters_of_isDigit hdigit
    · exact hapart d hsign
  have hdigits := readDigits?_eq_none hmem hm
  obtain ⟨c, rest, rfl, hc⟩ := h.head
  have hunsigned : readUnsigned? (c :: rest) = none := by
    rw [readUnsigned?_digit hc hletters, hdigits, ite_self]
  have hnegative : readNegative? ('-' :: c :: rest) = none := by
    rw [readNegative?_minus hletters, hdigits, ite_self]
  constructor
  · rw [readWhole?, hunsigned, readNegative?_digit hc]
  · rw [readWhole?, readUnsigned?_minus, hnegative]

/-- What begins a number is no word for what is not finite, and is read as a decimal. -/
theorem readFloat?_eq (h : BeginsNumber text.toList)
    (hminus : text.toList.head? = some '-' → BeginsNumber (text.toList.drop 1))
    (hread : Decimal.read? text.toList = some x) (hx : x.isFinite = true) :
    readFloat? text = some x := by
  have hinfinity : infinityWords.contains text = false := h.contains_eq_false (by decide)
  have hnan : [".nan", ".NaN", ".NAN"].contains text = false := h.contains_eq_false (by decide)
  have hdrop : (text.toList.head? == some '-' &&
      infinityWords.contains (String.ofList (text.toList.drop 1))) = false := by
    rw [← Bool.not_eq_true, Bool.and_eq_true, beq_iff_eq]
    rintro ⟨hhead, hword⟩
    have hrest : BeginsNumber (String.ofList (text.toList.drop 1)).toList := by
      rw [String.toList_ofList]
      exact hminus hhead
    rw [hrest.contains_eq_false (by decide)] at hword
    cases hword
  have hplus : text.toList.head? ≠ some '+' := by
    obtain ⟨c, rest, htext, hc⟩ := h
    rw [htext]
    rintro ⟨⟩
    exact absurd hc (by decide)
  unfold readFloat?
  dsimp only
  split
  case h_1 heq => exact absurd (by rw [heq]; rfl) hplus
  case h_2 =>
    have hsign : (text.toList.head? == some '+' &&
        (text.toList.head? == some '+' || text.toList.head? == some '-')) = false := by
      rw [beq_eq_false_iff_ne.2 hplus, Bool.false_and]
    rw [String.ofList_toList, hinfinity, hdrop, hnan, hsign, hread]
    simp only [Bool.false_eq_true, if_false, Option.filter_some, hx, if_true]

/-- What begins a number and spells a fractional number stands for it. -/
theorem BeginsNumber.ofPlain?_fraction (h : BeginsNumber text.toList)
    (hwhole : readWhole? text.toList = none)
    (hzero : hasLeadingZero text.toList = false) (hread : readFloat? text = some x) :
    Scalar.ofPlain? text = some (.float x) := by
  obtain ⟨hempty, hnull, hbool⟩ := h.not_word
  rw [Scalar.ofPlain?, hempty, hnull, hbool, hwhole, hzero, hread]
  rfl

/-- The text of a finite double is the text of a decimal, with a minus sign or without, that is
read as the double. -/
theorem floatText_cases (hx : x.isFinite = true) :
    Decimal.read? (Json.floatText x).toList = some x ∧
    (Decimal.IsNotation (Json.floatText x).toList ∨
      ∃ cs, (Json.floatText x).toList = '-' :: cs ∧ Decimal.IsNotation cs) := by
  obtain ⟨negative, text, htext, hnotation, hread⟩ := Decimal.exists_read?_text Json.numberStyle hx
  rw [Json.floatText, htext, Option.getD_some]
  refine ⟨hread, ?_⟩
  cases negative with
  | false => exact .inl hnotation
  | true => exact .inr ⟨text.toList, String.toList_append, hnotation⟩

/-- The text of a decimal begins a number. -/
theorem beginsNumber_of_isNotation (h : Decimal.IsNotation cs) : BeginsNumber cs := by
  obtain ⟨c, rest, hcs, hc⟩ := h.head
  exact ⟨c, rest, hcs, .inl hc⟩

/-- The text of a finite double begins a number. -/
theorem beginsNumber_floatText (hx : x.isFinite = true) :
    BeginsNumber (Json.floatText x).toList := by
  rcases (floatText_cases hx).2 with hnotation | ⟨cs, hcs, -⟩
  · exact beginsNumber_of_isNotation hnotation
  · exact ⟨'-', cs, hcs, .inr rfl⟩

/-- The text of a finite double spells the double. -/
theorem ofPlain?_float (hx : x.isFinite = true) :
    Scalar.ofPlain? (Json.floatText x) = some (.float x) := by
  obtain ⟨hread, hcases⟩ := floatText_cases hx
  have hbegins := beginsNumber_floatText hx
  generalize Json.floatText x = text at *
  rcases hcases with hnotation | ⟨cs, hcs, hnotation⟩
  · obtain ⟨m, hmem, hm, hsign⟩ := exists_mark hnotation
    have hminus : text.toList.head? = some '-' → BeginsNumber (text.toList.drop 1) := by
      obtain ⟨c, rest, htext, hc⟩ := hnotation.head
      rw [htext]
      rintro ⟨⟩
      cases hc
    exact hbegins.ofPlain?_fraction (readWhole?_of_isNotation hnotation).1
      (hasLeadingZero_of_mem hmem hm hsign)
      (readFloat?_eq hbegins hminus hread hx)
  · obtain ⟨m, hmem, hm, hsign⟩ := exists_mark hnotation
    apply hbegins.ofPlain?_fraction
    · rw [hcs]
      exact (readWhole?_of_isNotation hnotation).2
    · rw [hcs]
      exact hasLeadingZero_of_mem (.tail _ hmem) hm hsign
    · refine readFloat?_eq hbegins (fun _ => ?_) hread hx
      rw [hcs]
      exact beginsNumber_of_isNotation hnotation

/-! ## Scalars that are kept as strings -/

/-- The text of a number. Infinities and what is no number have none. -/
def Scalar.numberText? : Scalar → Option String
  | .int i => some (toString i)
  | .float x => if x.isFinite then some (Json.floatText x) else none
  | .null | .bool _ | .string _ => none

/-- The text that a plain scalar is kept by where it stays a string: that of its number, or else
its own. -/
def keptText (text : String) : String := ((Scalar.ofPlain? text).bind Scalar.numberText?).getD text

/-- A plain scalar that is read as a number. -/
def ReadsAsNumber (text : String) : Prop :=
  ((Scalar.ofPlain? text).bind Scalar.numberText?).isSome = true

instance (text : String) : Decidable (ReadsAsNumber text) := inferInstanceAs (Decidable (_ = true))

/-- The text of a whole number of sixty-four bits, with or without sign, or of a finite double. -/
def IsNumberText (text : String) : Prop :=
  (∃ i : Int, -2 ^ 63 ≤ i ∧ i < 2 ^ 64 ∧ text = toString i) ∨
  ∃ x : Float, x.isFinite = true ∧ text = Json.floatText x

/-- A whole number that is read fits in sixty-four bits, with or without sign. -/
theorem range_of_readWhole? {i : Int} (h : readWhole? cs = some (.fits i)) :
    -2 ^ 63 ≤ i ∧ i < 2 ^ 64 := by
  have hwords : Decimal.wordCount = 2 ^ 64 := rfl
  have hpositive : Decimal.positiveCount = 2 ^ 63 := rfl
  unfold readWhole? at h
  split at h
  case h_1 n _ _ =>
    split at h
    · cases h
      omega
    · split at h <;> cases h
  case h_2 n _ _ =>
    split at h
    · cases h
      omega
    · split at h <;> cases h
  case h_3 => cases h

/-- A plain scalar that stands for a whole number spells it. -/
theorem readWhole?_of_ofPlain? {i : Int} (h : Scalar.ofPlain? text = some (.int i)) :
    readWhole? text.toList = some (.fits i) := by
  unfold Scalar.ofPlain? at h
  split at h
  · cases h
  · split at h
    case h_1 => cases h
    case h_2 j _ hread =>
      cases h
      exact hread
    case h_3 => cases h
    case h_4 =>
      split at h
      · cases h
      · split at h <;> cases h

/-- A plain scalar that stands for a text stands for its own. -/
theorem eq_of_ofPlain? {s : String} (h : Scalar.ofPlain? text = some (.string s)) : s = text := by
  unfold Scalar.ofPlain? at h
  split at h
  · cases h
  · split at h
    case h_1 => cases h
    case h_2 => cases h
    case h_3 => cases h
    case h_4 =>
      split at h
      · cases h
        rfl
      · split at h
        · cases h
        · cases h
          rfl

/-- The text of a number that a plain scalar is read as is the text of a number, and is read as
that number. -/
theorem isNumberText_of_ofPlain? {scalar : Scalar} {number : String}
    (h : Scalar.ofPlain? text = some scalar) (hnumber : scalar.numberText? = some number) :
    IsNumberText number ∧ Scalar.ofPlain? number = some scalar := by
  cases scalar with
  | int i =>
    cases hnumber
    obtain ⟨hlow, hhigh⟩ := range_of_readWhole? (readWhole?_of_ofPlain? h)
    exact ⟨.inl ⟨i, hlow, hhigh, rfl⟩, ofPlain?_int hlow hhigh⟩
  | float x =>
    rw [Scalar.numberText?] at hnumber
    split at hnumber
    case isTrue hx =>
      cases hnumber
      exact ⟨.inr ⟨x, hx, rfl⟩, ofPlain?_float hx⟩
    case isFalse => cases hnumber
  | null | bool | string => cases hnumber

/-- The text of a number is kept as it is. -/
theorem keptText_of_isNumberText (h : IsNumberText text) : keptText text = text := by
  obtain ⟨i, hlow, hhigh, rfl⟩ | ⟨x, hx, rfl⟩ := h
  · rw [keptText, ofPlain?_int hlow hhigh]
    rfl
  · rw [keptText, ofPlain?_float hx, Option.bind_some, Scalar.numberText?, if_pos hx,
      Option.getD_some]

/-- **A plain scalar is kept as it is if and only if it is no number or is the text of one.** -/
theorem keptText_eq_self_iff : keptText text = text ↔
    (ReadsAsNumber text → IsNumberText text) := by
  constructor
  · intro hkept hreads
    obtain ⟨number, hnumber⟩ := Option.isSome_iff_exists.1 hreads
    rw [keptText, hnumber, Option.getD_some] at hkept
    obtain ⟨scalar, hscalar, hnumber⟩ := Option.bind_eq_some_iff.1 hnumber
    rw [← hkept]
    exact (isNumberText_of_ofPlain? hscalar hnumber).1
  · intro h
    by_cases hreads : ReadsAsNumber text
    · exact keptText_of_isNumberText (h hreads)
    · rw [keptText, Option.not_isSome_iff_eq_none.1 hreads, Option.getD_none]

end Yaml

end Dossier

import Dossier.Calendar.Date
import Dossier.Proofs.Text.Blank
import Dossier.Proofs.Text.Radix

/-!
# Dates in order

Texts of the form `YYYY-MM-DD` come in the order of the days that they write (`IsWritten.lt_iff`),
and every day of the years 0 to 9999 has such a text (`isWritten_text`). Reading accepts other
texts, too, and these need not be in that order.
-/

namespace Dossier

/-! ## Numerals at the front of a text -/

namespace Text

variable {width : Nat} {c : Char} {cs ds rest rest' : List Char}

/-- A text that begins with a numeral does not begin with a blank. -/
theorem IsNumeral.dropBlanks_append (hds : IsNumeral (width + 1) ds) :
    dropBlanks (ds ++ rest) = ds ++ rest := by
  obtain ⟨hlength, hdigits⟩ := hds
  cases ds with
  | nil => cases hlength
  | cons d ds =>
    have hblank := isBlank_of_isDigit (hdigits d (.head _))
    rw [dropBlanks, List.cons_append, List.dropWhile_cons_of_neg (by simp [hblank])]

/-- Texts that begin with numerals of one width are in the order of the numerals, and of what
follows where these are the same. -/
theorem IsNumeral.append_lt_iff (hcs : IsNumeral width cs) (hds : IsNumeral width ds) :
    cs ++ rest < ds ++ rest' ↔ ofDigits cs < ofDigits ds ∨
    ofDigits cs = ofDigits ds ∧ rest < rest' := by
  rw [ofDigits_lt_iff hcs hds, ofDigits_inj hcs hds]
  have hlength := hcs.length.trans hds.length.symm
  clear hcs hds
  induction cs generalizing ds with
  | nil => simp [List.eq_nil_of_length_eq_zero hlength.symm]
  | cons c cs ih =>
    obtain _ | ⟨d, ds⟩ := ds
    · cases hlength
    have hrest : cs ++ rest < ds ++ rest' ↔ cs < ds ∨ cs = ds ∧ rest < rest' :=
      ih (by simpa using hlength)
    rw [List.cons_append, List.cons_append, List.cons_lt_cons_iff, List.cons_lt_cons_iff, hrest,
      List.cons.injEq]
    tauto

end Text

namespace Date

open Text

/-- A numeral at the front of a text is read, if it is as long as a numeral may be there. -/
theorem readNumber_append {width : Nat} {ds rest : List Char} (hds : IsNumeral (width + 1) ds) :
    readNumber (width + 1) (ds ++ rest) = some (ofDigits ds, rest) := by
  have htake : ((ds ++ rest).takeWhile Char.isDigit).take (width + 1) = ds := by
    rw [List.takeWhile_append_of_pos hds.digits, List.take_left' hds.length]
  have hne : ds.isEmpty = false := by
    rw [List.isEmpty_eq_false_iff]
    rintro rfl
    cases hds.length
  rw [readNumber, htake, hne, List.drop_left' rfl]
  rfl

/-- A year in four digits at the front of a text is read. -/
theorem readYear_append {ds rest : List Char} (hds : IsNumeral 4 ds) :
    readYear (ds ++ rest) = some ((ofDigits ds : Int), rest) := by
  have hread : readNumber 4 (ds ++ rest) = some (ofDigits ds, rest) := readNumber_append hds
  obtain ⟨hlength, hdigits⟩ := hds
  cases ds with
  | nil => cases hlength
  | cons d ds =>
    have hd := hdigits d (.head _)
    rw [List.cons_append] at hread ⊢
    unfold readYear
    split
    · next heq =>
      rw [(List.cons.inj heq).1] at hd
      exact absurd hd (by decide)
    · next heq =>
      rw [(List.cons.inj heq).1] at hd
      exact absurd hd (by decide)
    · rw [hread]
      rfl

/-! ## The form of a date -/

/-- A text that writes a year in four digits, and a month and a day in two. -/
structure IsWritten (text : String) (year month day : List Char) : Prop where
  toList_eq : text.toList = year ++ '-' :: (month ++ '-' :: day)
  year : IsNumeral 4 year
  month : IsNumeral 2 month
  day : IsNumeral 2 day

/-- Whether a text has the form `YYYY-MM-DD`. -/
def isPadded (text : String) : Bool :=
  match text.toList with
  | [y₁, y₂, y₃, y₄, '-', m₁, m₂, '-', d₁, d₂] => [y₁, y₂, y₃, y₄, m₁, m₂, d₁, d₂].all Char.isDigit
  | _ => false

/-- A text has the form of a date if it consists of numerals of the widths of a date. -/
theorem isPadded_iff {text : String} :
    isPadded text = true ↔ ∃ year month day, IsWritten text year month day := by
  constructor
  · intro h
    unfold isPadded at h
    split at h
    case h_2 => cases h
    case h_1 y₁ y₂ y₃ y₄ m₁ m₂ d₁ d₂ htext =>
      simp only [List.all_cons, List.all_nil, Bool.and_true, Bool.and_eq_true] at h
      obtain ⟨hy₁, hy₂, hy₃, hy₄, hm₁, hm₂, hd₁, hd₂⟩ := h
      exact ⟨[y₁, y₂, y₃, y₄], [m₁, m₂], [d₁, d₂], htext, ⟨rfl, by simp [*]⟩, ⟨rfl, by simp [*]⟩,
        ⟨rfl, by simp [*]⟩⟩
  · rintro ⟨year, month, day, htext, ⟨hyear, hyears⟩, ⟨hmonth, hmonths⟩, ⟨hday, hdays⟩⟩
    obtain ⟨y₁, y₂, y₃, y₄, rfl⟩ := List.length_eq_four.1 hyear
    obtain ⟨m₁, m₂, rfl⟩ := List.length_eq_two.1 hmonth
    obtain ⟨d₁, d₂, rfl⟩ := List.length_eq_two.1 hday
    simp only [List.forall_mem_cons] at hyears hmonths hdays
    simp [isPadded, htext, hyears, hmonths, hdays]

variable {a b : Date} {s t : String} {year month day year' month' day' : List Char}

/-- The day of given numbers has these numbers. -/
theorem of?_eq_some_iff {y : Int} {m d : Nat} :
    of? y m d = some a ↔ a.year = y ∧ a.month = m ∧ a.day = d := by
  unfold of?
  constructor
  · intro h
    split at h
    · split at h
      · cases h
        exact ⟨rfl, rfl, rfl⟩
      · cases h
    · cases h
  · rintro ⟨rfl, rfl, rfl⟩
    rw [dif_pos a.month_mem, dif_pos a.day_mem]

/-- A text that writes three numbers is read as the day of these numbers. -/
theorem IsWritten.read?_eq (h : IsWritten s year month day) :
    read? s = of? (ofDigits year) (ofDigits month) (ofDigits day) := by
  have hrange : yearInRange (ofDigits year) = true := by
    have hlt := ofDigits_lt h.year
    simp only [yearInRange, Bool.and_eq_true, decide_eq_true_eq]
    omega
  have hlast : readNumber 2 (Text.dropBlanks day) = some (ofDigits day, []) := by
    rw [← List.append_nil day, h.day.dropBlanks_append, readNumber_append h.day, List.append_nil]
  rw [read?, h.toList_eq, h.year.dropBlanks_append, readYear_append h.year]
  simp only [Option.bind_eq_bind, Option.bind_some, readHyphen, h.month.dropBlanks_append,
    readNumber_append h.month, hlast, List.isEmpty_nil, hrange, Bool.and_self, if_true]

/-- A text of the form of a date writes a day of the years 0 to 9999. -/
theorem year_of_isPadded (hs : isPadded s = true) (ha : read? s = some a) :
    0 ≤ a.year ∧ a.year ≤ 9999 := by
  obtain ⟨year, month, day, hs⟩ := isPadded_iff.1 hs
  rw [hs.read?_eq, of?_eq_some_iff] at ha
  have hlt : ofDigits year < 10 ^ 4 := ofDigits_lt hs.year
  omega

/-- Texts that write the numbers of days are in the order of the days. -/
theorem IsWritten.lt_iff (hs : IsWritten s year month day) (ht : IsWritten t year' month' day')
    (ha : read? s = some a) (hb : read? t = some b) : s < t ↔ a.before b = true := by
  rw [hs.read?_eq, of?_eq_some_iff] at ha
  rw [ht.read?_eq, of?_eq_some_iff] at hb
  obtain ⟨hyear, hmonth, hday⟩ := ha
  obtain ⟨hyear', hmonth', hday'⟩ := hb
  have hdays : day < day' ↔ ofDigits day < ofDigits day' := (ofDigits_lt_iff hs.day ht.day).symm
  rw [String.lt_iff_toList_lt, hs.toList_eq, ht.toList_eq, hs.year.append_lt_iff ht.year,
    List.cons_lt_cons_iff, hs.month.append_lt_iff ht.month, List.cons_lt_cons_iff, hdays]
  simp only [lt_self_iff_false, true_and, false_or, before, hyear, hyear', hmonth, hmonth',
    hday, hday', Int.ofNat_lt, Int.natCast_inj, Bool.or_eq_true, Bool.and_eq_true,
    decide_eq_true_eq, beq_iff_eq]

/-- Texts of the form of a date are in the order of the days that they write. -/
theorem lt_iff_before (hs : isPadded s = true) (ht : isPadded t = true) (ha : read? s = some a)
    (hb : read? t = some b) : s < t ↔ a.before b = true := by
  obtain ⟨_, _, _, hs⟩ := isPadded_iff.1 hs
  obtain ⟨_, _, _, ht⟩ := isPadded_iff.1 ht
  exact hs.lt_iff ht ha hb

/-- Whether two texts write days, the first of which is not after the second. -/
def isNotAfter (s t : String) : Bool :=
  match read? s, read? t with
  | some a, some b => !b.before a
  | _, _ => false

/-- A text of the form of a date is not after another if the day that it writes is not. -/
theorem isNotAfter_iff_le (hs : isPadded s = true) (ht : isPadded t = true)
    (ha : (read? s).isSome = true)
    (hb : (read? t).isSome = true) : isNotAfter s t = true ↔ s ≤ t := by
  obtain ⟨a, ha⟩ := Option.isSome_iff_exists.1 ha
  obtain ⟨b, hb⟩ := Option.isSome_iff_exists.1 hb
  rw [isNotAfter, ha, hb, Bool.not_eq_true', ← not_lt, lt_iff_before ht hs hb ha, Bool.not_eq_true]

/-- Texts that write the same day are not after one another. -/
theorem isNotAfter_of_eq (ha : read? s = some a) (hb : read? t = some a) :
    isNotAfter s t = true := by
  rw [isNotAfter, ha, hb]
  simp [before]

/-! ## The text of a day -/

/-- A day of the years 0 to 9999 in the form `YYYY-MM-DD`. -/
def text (d : Date) : String :=
  .ofList (numeral 4 d.year.toNat ++ '-' :: (numeral 2 d.month ++ '-' :: numeral 2 d.day))

/-- The text of a day writes its numbers. -/
theorem isWritten_text (d : Date) :
    IsWritten d.text (numeral 4 d.year.toNat) (numeral 2 d.month) (numeral 2 d.day) :=
  ⟨String.toList_ofList, isNumeral_numeral .., isNumeral_numeral .., isNumeral_numeral ..⟩

/-- The text of a day is read as this day. -/
theorem read?_text {d : Date} (hyear : 0 ≤ d.year ∧ d.year ≤ 9999) : read? d.text = some d := by
  have hmonth := d.month_mem
  have hday : d.day < 10 ^ 2 := by
    have hmem := d.day_mem
    have hmost : daysInMonth d.year d.month ≤ 31 := by
      unfold daysInMonth
      split <;> (try split) <;> omega
    omega
  rw [d.isWritten_text.read?_eq, ofDigits_numeral (by omega), ofDigits_numeral (by omega),
    ofDigits_numeral hday, of?_eq_some_iff]
  exact ⟨by omega, rfl, rfl⟩

end Date

end Dossier

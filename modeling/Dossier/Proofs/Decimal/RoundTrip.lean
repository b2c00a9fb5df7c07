import Dossier.Proofs.Decimal.Shortest
import Dossier.Proofs.Text.Radix

/-!
# Doubles are read back

The text of a decimal has digits around a point, before an exponent, or both
(`exists_read?_write`), and what is read is the double nearest to the decimal. As the shortest
decimal of a double rounds to it, the text of a finite double is read as that double
(`read?_text`).
-/

namespace Dossier

/-! ## Digits -/

namespace Text

variable {cs ds : List Char}

/-- The digits of a number write it. -/
theorem ofDigits_toDigits (n : Nat) : ofDigits (Nat.toDigits 10 n) = n :=
  Nat.ofDigitChars_ten_toDigits

/-- Zeros at the end of digits multiply by ten. -/
theorem ofDigits_append_zeros (cs : List Char) (n : Nat) :
    ofDigits (cs ++ List.replicate n '0') = 10 ^ n * ofDigits cs :=
  (Nat.ofDigitChars_append 0).trans Nat.ofDigitChars_replicate_zero

/-- Zeros before digits change nothing. -/
theorem ofDigits_zeros_append (n : Nat) (cs : List Char) :
    ofDigits (List.replicate n '0' ++ cs) = ofDigits cs := by
  have hzeros : Nat.ofDigitChars 10 (List.replicate n '0') 0 = 0 := by
    rw [Nat.ofDigitChars_replicate_zero, Nat.mul_zero]
  show Nat.ofDigitChars 10 _ 0 = Nat.ofDigitChars 10 cs 0
  rw [Nat.ofDigitChars_append, hzeros]

end Text

namespace Decimal

open Text

variable {whole fraction tail cs ds : List Char}

/-- Characters that are digits. -/
def AreDigits (cs : List Char) : Prop := ∀ c ∈ cs, c.isDigit = true

/-- A text that does not go on with a digit. -/
def EndsDigits (cs : List Char) : Prop := ∀ c ∈ cs.head?, c.isDigit = false

/-- Digits are taken up to where they end. -/
theorem takeWhile_digits (hwhole : AreDigits whole) (htail : EndsDigits tail) :
    (whole ++ tail).takeWhile Char.isDigit = whole := by
  rw [List.takeWhile_append_of_pos hwhole]
  cases tail with
  | nil => exact List.append_nil whole
  | cons c rest =>
    have hc : c.isDigit = false := htail c rfl
    rw [List.takeWhile_cons_of_neg (by simp [hc]), List.append_nil]

/-- What follows digits is left. -/
theorem dropWhile_digits (hwhole : AreDigits whole) (htail : EndsDigits tail) :
    (whole ++ tail).dropWhile Char.isDigit = tail := by
  rw [List.dropWhile_append_of_pos hwhole]
  cases tail with
  | nil => rfl
  | cons c rest =>
    have hc : c.isDigit = false := htail c rfl
    exact List.dropWhile_cons_of_neg (by simp [hc])

/-- A text that begins with a digit has no sign. -/
theorem splitSign_digits (hne : whole ≠ []) (hwhole : AreDigits whole) :
    splitSign (whole ++ tail) = (false, whole ++ tail) := by
  cases whole with
  | nil => exact absurd rfl hne
  | cons c rest =>
    have hc : c.isDigit = true := hwhole c (.head _)
    unfold splitSign
    split
    case h_1 heq =>
      cases heq
      cases hc
    case h_2 heq =>
      cases heq
      cases hc
    case h_3 => rfl

/-- The digits after a point, and what follows them. -/
def splitPoint : List Char → List Char × List Char
  | '.' :: rest => (rest.takeWhile Char.isDigit, rest.dropWhile Char.isDigit)
  | rest => ([], rest)

/-- The exponent that a text ends with. -/
def exponent? : List Char → Option Int
  | [] => some 0
  | c :: rest =>
    let (down, digits) := splitSign rest
    if (c == 'e' || c == 'E') && !digits.isEmpty && digits.all Char.isDigit then
      some (if down then -(ofDigits digits : Int) else ofDigits digits)
    else none

/-- A decimal's text is read part by part. -/
theorem read?_eq (cs : List Char) : read? cs =
    let (negative, cs) := splitSign cs
    let whole := cs.takeWhile Char.isDigit
    let (fraction, rest) := splitPoint (cs.dropWhile Char.isDigit)
    if whole.isEmpty && fraction.isEmpty then none
    else (exponent? rest).map fun exponent =>
      let x := ofScaled (ofDigits (whole ++ fraction)) (exponent - fraction.length)
      if negative then -x else x := by
  rw [read?]
  rfl

/-- Digits around a point are read with what stands after the point and the exponent. -/
theorem read?_point (hne : whole ≠ []) (hwhole : AreDigits whole) (hfraction : AreDigits fraction)
    (htail : EndsDigits tail) : read? (whole ++ '.' :: (fraction ++ tail)) =
      (exponent? tail).map fun exponent =>
      ofScaled (ofDigits (whole ++ fraction)) (exponent - fraction.length) := by
  have hpoint : EndsDigits ('.' :: (fraction ++ tail)) := by
    intro c hc
    cases hc
    rfl
  have hsome : whole.isEmpty = false := List.isEmpty_eq_false_iff.2 hne
  simp only [read?_eq, splitSign_digits hne hwhole, takeWhile_digits hwhole hpoint,
    dropWhile_digits hwhole hpoint, splitPoint, takeWhile_digits hfraction htail,
    dropWhile_digits hfraction htail, hsome, Bool.false_and, Bool.false_eq_true, if_false]

/-- Digits without a point are read with the exponent. -/
theorem read?_digits (hne : whole ≠ []) (hwhole : AreDigits whole) (htail : EndsDigits tail)
    (hpoint : tail.head? ≠ some '.') : read? (whole ++ tail) = (exponent? tail).map fun exponent =>
      ofScaled (ofDigits whole) exponent := by
  have hsome : whole.isEmpty = false := List.isEmpty_eq_false_iff.2 hne
  have hsplit : splitPoint tail = ([], tail) := by
    unfold splitPoint
    split
    · exact absurd rfl hpoint
    · rfl
  simp only [read?_eq, splitSign_digits hne hwhole, takeWhile_digits hwhole htail,
    dropWhile_digits hwhole htail, hsplit, hsome, Bool.false_and, Bool.false_eq_true, if_false,
    List.append_nil, List.length_nil, Nat.cast_zero, sub_zero]

/-- The digits of a number are digits. -/
theorem areDigits_toDigits (n : Nat) : AreDigits (Nat.toDigits 10 n) := fun _ hc =>
  Nat.isDigit_of_mem_toDigits (by decide) (Nat.le_refl 10) hc

/-- Zeros are digits. -/
theorem areDigits_zeros (n : Nat) : AreDigits (List.replicate n '0') := by
  intro c hc
  rw [List.eq_of_mem_replicate hc]
  rfl

theorem endsDigits_nil : EndsDigits [] := fun _ hc => nomatch hc

theorem endsDigits_exponent (cs : List Char) : EndsDigits ('e' :: cs) := by
  intro c hc
  cases hc
  rfl

/-- A signed exponent is read back. -/
theorem exponent?_written (first : Int) :
    exponent? ('e' :: (if first < 0 then '-' else '+') :: Nat.toDigits 10 first.natAbs) =
      some first := by
  have hdigits : (Nat.toDigits 10 first.natAbs).all Char.isDigit = true :=
    List.all_eq_true.2 (areDigits_toDigits _)
  have hsome : (Nat.toDigits 10 first.natAbs).isEmpty = false :=
    List.isEmpty_eq_false_iff.2 Nat.toDigits_ne_nil
  split
  case isTrue hneg =>
    have hvalue : -(first.natAbs : Int) = first := by omega
    simp only [exponent?, splitSign, ofDigits_toDigits, hdigits, hsome, hvalue]
    rfl
  case isFalse hpos =>
    have hvalue : (first.natAbs : Int) = first := by omega
    simp only [exponent?, splitSign, ofDigits_toDigits, hdigits, hsome, hvalue]
    rfl

/-! ## Written decimals -/

/-- Digits that end before the point are read with the zeros that fill them up to it and the one
after it. -/
theorem read?_whole (hne : cs ≠ []) (hcs : AreDigits cs) (n : Nat) :
    read? (cs ++ List.replicate n '0' ++ ['.', '0']) =
      some (ofScaled (10 ^ (n + 1) * ofDigits cs) (-1)) := by
  have hwhole : AreDigits (cs ++ List.replicate n '0') :=
    List.forall_mem_append.2 ⟨hcs, areDigits_zeros n⟩
  have hzero : AreDigits ['0'] := areDigits_zeros 1
  have htext : cs ++ List.replicate n '0' ++ ['.', '0'] =
      (cs ++ List.replicate n '0') ++ '.' :: (['0'] ++ []) := rfl
  have hall : cs ++ List.replicate n '0' ++ ['0'] = cs ++ List.replicate (n + 1) '0' := by
    rw [List.append_assoc, List.replicate_succ']
  rw [htext, read?_point (List.append_ne_nil_of_left_ne_nil hne _) hwhole hzero
    endsDigits_nil, hall, ofDigits_append_zeros]
  rfl

/-- Digits around the point are read one after another. -/
theorem read?_split (hne : cs ≠ []) (hcs : AreDigits cs) (n : Nat) :
    read? (cs.take (n + 1) ++ '.' :: cs.drop (n + 1)) =
      some (ofScaled (ofDigits cs) (-(cs.drop (n + 1)).length)) := by
  have hwhole : AreDigits (cs.take (n + 1)) := fun c hc => hcs c (List.mem_of_mem_take hc)
  have hfraction : AreDigits (cs.drop (n + 1)) := fun c hc => hcs c (List.mem_of_mem_drop hc)
  have hsome : cs.take (n + 1) ≠ [] := by simpa using hne
  have hread := read?_point hsome hwhole hfraction endsDigits_nil
  rw [List.append_nil, List.take_append_drop] at hread
  rw [hread, ← zero_sub]
  rfl

/-- Digits that begin after the point are read with the zeros between them. -/
theorem read?_zeros (hcs : AreDigits cs) (n : Nat) :
    read? (['0', '.'] ++ List.replicate n '0' ++ cs) =
    some (ofScaled (ofDigits cs) (-(n + cs.length))) := by
  have hzero : AreDigits ['0'] := areDigits_zeros 1
  have hfraction : AreDigits (List.replicate n '0' ++ cs) :=
    List.forall_mem_append.2 ⟨areDigits_zeros n, hcs⟩
  have hread := read?_point (List.cons_ne_nil _ _) hzero hfraction endsDigits_nil
  have hall : ['0'] ++ (List.replicate n '0' ++ cs) = List.replicate (n + 1) '0' ++ cs := rfl
  rw [List.append_nil, hall, ofDigits_zeros_append, List.length_append, List.length_replicate,
    Nat.cast_add] at hread
  rw [List.append_assoc, ← zero_sub]
  exact hread

/-- A digit, a fraction if there is one, and an exponent are read together. -/
theorem read?_exponent (hne : cs ≠ []) (hcs : AreDigits cs) (first : Int) :
    read? (cs.take 1 ++ (if (cs.drop 1).isEmpty then [] else '.' :: cs.drop 1) ++
      ['e', if first < 0 then '-' else '+'] ++ Nat.toDigits 10 first.natAbs) =
        some (ofScaled (ofDigits cs) (first - (cs.drop 1).length)) := by
  obtain _ | ⟨c, rest⟩ := cs
  · exact absurd rfl hne
  have hc : AreDigits [c] := fun x hx => hcs x (List.mem_cons.2 (.inl (List.mem_singleton.1 hx)))
  have hrest : AreDigits rest := fun x hx => hcs x (.tail _ hx)
  rw [List.take_succ_cons, List.take_zero, List.drop_succ_cons, List.drop_zero]
  split
  case isTrue hempty =>
    obtain rfl : rest = [] := List.isEmpty_iff.1 hempty
    have hread := read?_digits (List.cons_ne_nil c []) hc
      (endsDigits_exponent ((if first < 0 then '-' else '+') :: Nat.toDigits 10 first.natAbs))
      (by simp)
    rw [exponent?_written] at hread
    rw [List.length_nil, Nat.cast_zero, sub_zero]
    exact hread
  case isFalse =>
    have hread := read?_point (List.cons_ne_nil c []) hc hrest
      (endsDigits_exponent ((if first < 0 then '-' else '+') :: Nat.toDigits 10 first.natAbs))
    rw [exponent?_written] at hread
    rw [List.append_assoc, List.append_assoc]
    exact hread

/-- **The text of a decimal is read as the double nearest to it.** -/
theorem exists_read?_write (style : Style) (d : Scaled) :
    ∃ written : Scaled, written.value = d.value ∧
    read? (style.write d).toList = some (ofScaled written.digits written.exponent) := by
  have hdigits := areDigits_toDigits d.digits
  have hne : Nat.toDigits 10 d.digits ≠ [] := Nat.toDigits_ne_nil
  have hwritten := ofDigits_toDigits d.digits
  have hlength := List.length_pos_iff.2 hne
  unfold Style.write
  rw [String.toList_ofList]
  generalize Nat.toDigits 10 d.digits = digits at *
  dsimp only
  split
  case isTrue =>
    split
    case isTrue hge =>
      obtain ⟨n, hn⟩ := Int.eq_ofNat_of_zero_le hge
      refine ⟨⟨10 ^ (n + 1) * d.digits, -1⟩, ?_, ?_⟩
      · rw [Scaled.value, Scaled.value, hn, zpow_natCast, zpow_neg_one]
        push_cast
        ring
      · rw [hn, Int.toNat_natCast, read?_whole hne hdigits, hwritten]
    case isFalse hlt =>
      refine ⟨d, rfl, ?_⟩
      split
      case isTrue hfirst =>
        rw [read?_split hne hdigits, hwritten, List.length_drop]
        congr 2
        omega
      case isFalse hfirst =>
        rw [read?_zeros hdigits, hwritten]
        congr 2
        omega
  case isFalse =>
    refine ⟨d, rfl, ?_⟩
    rw [read?_exponent hne hdigits, hwritten, List.length_drop]
    congr 2
    omega

/-! ## Written doubles -/

/-- Digits and the signs of the notation of decimals. -/
def ArePlain (cs : List Char) : Prop := ∀ c ∈ cs, c.isDigit = true ∨ c ∈ ['.', 'e', '+', '-']

instance (cs : List Char) : Decidable (ArePlain cs) := List.decidableBAll _ cs

theorem AreDigits.plain (h : AreDigits cs) : ArePlain cs := fun c hc => .inl (h c hc)

theorem ArePlain.append (hcs : ArePlain cs) (hds : ArePlain ds) : ArePlain (cs ++ ds) :=
  List.forall_mem_append.2 ⟨hcs, hds⟩

/-- The text of a decimal: digits with a point or an exponent, and a digit first. -/
structure IsNotation (cs : List Char) : Prop where
  head : ∃ c rest, cs = c :: rest ∧ c.isDigit = true
  mark : '.' ∈ cs ∨ 'e' ∈ cs
  plain : ArePlain cs

/-- What a style writes is the text of a decimal. -/
theorem isNotation_write (style : Style) (d : Scaled) : IsNotation (style.write d).toList := by
  have hdigits := areDigits_toDigits d.digits
  have hne : Nat.toDigits 10 d.digits ≠ [] := Nat.toDigits_ne_nil
  unfold Style.write
  rw [String.toList_ofList]
  generalize Nat.toDigits 10 d.digits = digits at *
  obtain _ | ⟨c, rest⟩ := digits
  · exact absurd rfl hne
  have hc := hdigits c (.head _)
  have htake (n : Nat) : ArePlain ((c :: rest).take n) :=
    fun x hx => .inl (hdigits x (List.mem_of_mem_take hx))
  have hdrop (n : Nat) : ArePlain ('.' :: (c :: rest).drop n) :=
    List.forall_mem_cons.2 ⟨by decide, fun x hx => .inl (hdigits x (List.mem_of_mem_drop hx))⟩
  have hzeros (n : Nat) := (areDigits_zeros n).plain
  dsimp only
  split
  · split
    · exact ⟨⟨c, _, rfl, hc⟩, .inl (by simp), (hdigits.plain.append (hzeros _)).append (by decide)⟩
    · split
      · exact ⟨⟨c, _, rfl, hc⟩, .inl (by simp), (htake _).append (hdrop _)⟩
      · exact ⟨⟨'0', _, rfl, rfl⟩, .inl (by simp),
          (ArePlain.append (by decide) (hzeros _)).append hdigits.plain⟩
  · refine ⟨⟨c, _, rfl, hc⟩, .inr (by simp),
      (((htake 1).append ?_).append ?_).append (areDigits_toDigits _).plain⟩
    · split
      · exact fun _ hx => nomatch hx
      · exact hdrop 1
    · split <;> decide

/-- The opposite is read of a text with a minus sign before it. -/
theorem read?_minus (h : IsNotation cs) : read? ('-' :: cs) = (read? cs).map fun x => -x := by
  obtain ⟨c, rest, rfl, hc⟩ := h.head
  have hsplit : splitSign ([c] ++ rest) = (false, [c] ++ rest) :=
    splitSign_digits (List.cons_ne_nil c [])
    fun x hx => by rw [List.mem_singleton.1 hx]; exact hc
  rw [List.singleton_append] at hsplit
  rw [read?_eq, read?_eq, hsplit]
  simp only [splitSign]
  split
  · rfl
  · rw [Option.map_map]
    rfl

/-- The double that is nothing is read of its text. -/
theorem read?_zero : read? "0.0".toList = some (assemble 0 (-1074)) := by decide +kernel

/-- The text of a double up to its sign is read as the double of its parts. -/
theorem read?_parts {m : Nat} {q : Int} (style : Style) (h : IsNormal m q) :
    read? (if m == 0 then "0.0" else style.write (shortest m q)).toList = some (assemble m q) := by
  rcases Nat.eq_zero_or_pos m with rfl | hm
  · obtain rfl : q = -1074 := h.leading.resolve_left (by decide)
    exact read?_zero
  · obtain ⟨written, hvalue, hread⟩ := exists_read?_write style (shortest m q)
    have hround : RoundsTo m q written.value := by
      rw [hvalue]
      exact roundsTo_shortest h hm
    rw [if_neg (by simpa using hm.ne'), hread, ofScaled_eq h hm hround]

/-- **The text of a finite double is read as the double.** -/
theorem exists_read?_text {x : Float} (style : Style) (hx : x.isFinite = true) :
    ∃ (negative : Bool) (text : String),
    style.text? x = some (if negative then "-" ++ text else text) ∧ IsNotation text.toList ∧
      read? (if negative then "-" ++ text else text).toList = some x := by
  obtain ⟨negative, m, q, hparts, hnormal, hassemble⟩ := exists_parts hx
  have hread := read?_parts style hnormal
  have hnotation : IsNotation (if m == 0 then "0.0" else style.write (shortest m q)).toList := by
    split
    · exact ⟨⟨'0', _, rfl, rfl⟩, .inl (by decide), by decide⟩
    · exact isNotation_write style _
  generalize htext : (if m == 0 then "0.0" else style.write (shortest m q)) =
    text at hread hnotation
  refine ⟨negative, text, ?_, hnotation, ?_⟩
  · rw [Style.text?, hparts, ← htext]
  · rw [hassemble]
    cases negative with
    | false => simpa only [Bool.false_eq_true, if_false] using hread
    | true =>
      have hminus : ("-" ++ text).toList = '-' :: text.toList := by
        rw [String.toList_append]
        rfl
      simp only [if_true, hminus, read?_minus hnotation, hread, Option.map_some]

end Decimal

end Dossier

/-!
# What is left to read

A reader answers with what is left of the list it was given: a tail of it, which is not longer, or,
if the reader takes at least one item, a rest of it, which is shorter, so that reading on ends.
-/

namespace Dossier.Text

/-- No more items than `xs`. -/
abbrev Tail {α : Type} (xs : List α) := { rest : List α // rest.length ≤ xs.length }

/-- Fewer items than `xs`. -/
abbrev Rest {α : Type} (xs : List α) := { rest : List α // rest.length < xs.length }

variable {α : Type}

namespace Tail

/-- The whole of a list. -/
def all (xs : List α) : Tail xs := ⟨xs, Nat.le_refl _⟩

/-- The list without its first `n` items. -/
def drop (n : Nat) (xs : List α) : Tail xs := ⟨xs.drop n, by simp only [List.length_drop]; omega⟩

/-- The list without the items at its front that satisfy `p`. -/
def dropWhile (p : α → Bool) (xs : List α) : Tail xs :=
  ⟨xs.dropWhile p, (List.dropWhile_sublist p).length_le⟩

/-- A tail of what follows an item. -/
def cons {xs : List α} (x : α) (t : Tail xs) : Tail (x :: xs) :=
  ⟨t.val, Nat.le_succ_of_le t.property⟩

/-- A tail of a tail. -/
def trans {xs : List α} (t : Tail xs) (u : Tail t.val) : Tail xs :=
  ⟨u.val, Nat.le_trans u.property t.property⟩

end Tail

namespace Rest

/-- The items after the first. -/
def tail (x : α) (xs : List α) : Rest (x :: xs) := ⟨xs, Nat.lt_succ_self _⟩

/-- What is shorter than the items after `x` is shorter than those with `x`. -/
def cons {xs : List α} (x : α) (r : Rest xs) : Rest (x :: xs) :=
  ⟨r.val, Nat.lt_succ_of_lt r.property⟩

/-- What is shorter than a shorter list is shorter. -/
def trans {xs : List α} (r : Rest xs) (s : Rest r.val) : Rest xs :=
  ⟨s.val, Nat.lt_trans s.property r.property⟩

end Rest

namespace Tail

/-- A tail of the items after the first lacks at least that one. -/
def after {xs : List α} (x : α) (t : Tail xs) : Rest (x :: xs) :=
  ⟨t.val, Nat.lt_succ_of_le t.property⟩

/-- A rest of a tail. -/
def rest {xs : List α} (t : Tail xs) (r : Rest t.val) : Rest xs :=
  ⟨r.val, Nat.lt_of_lt_of_le r.property t.property⟩

/-- The first item of a tail and what follows it. -/
def next? {xs : List α} (t : Tail xs) : Option (α × Rest xs) :=
  match t with
  | ⟨[], _⟩ => none
  | ⟨x :: rest, h⟩ => some (x, ⟨rest, h⟩)

end Tail

end Dossier.Text

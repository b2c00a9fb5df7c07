import Dossier.Dependency.Index

/-!
# Ids that lead into no cycle

An id whose targets lead into no cycle leads into none itself. `acyclicIds` peels such ids off:
those without targets first, and then each id when the last of its targets is peeled off. A counter
for every id says how many of its targets are left. What is never peeled off lies on a cycle or
leads into one.

The work may be begun in any order (`Arrangement`).
-/

namespace Dossier.Dependency

/-! ## Counters -/

/-- Numbers under ids. -/
abbrev Counters := List (String × Nat)

namespace Counters

/-- The sum of all counters. -/
def total : Counters → Nat
  | [] => 0
  | (_, n) :: rest => n + total rest

/-- Sets the counter of an id that has one. -/
def put (id : String) (n : Nat) : Counters → Counters
  | [] => []
  | (k, m) :: rest => if id == k then (k, n) :: rest else (k, m) :: put id n rest

/-- A counter that is set lower by one lowers the sum by one. -/
theorem total_put {cs : Counters} {id : String} {n : Nat} (h : cs.lookup id = some (n + 1)) :
    (cs.put id n).total + 1 = cs.total := by
  induction cs with
  | nil => cases h
  | cons first rest ih =>
    obtain ⟨k, m⟩ := first
    rw [List.lookup_cons] at h
    rw [put]
    cases hk : id == k with
    | true =>
      rw [hk] at h
      cases h
      simp only [if_true, total]
      omega
    | false =>
      rw [hk] at h
      have := ih h
      simp only [Bool.false_eq_true, if_false, total] at this ⊢
      omega

end Counters

/-! ## Work that is left -/

/-- What is left to peel off. -/
structure Worklist where
  /-- The number of targets of an id that are not peeled off, for every id that has targets. -/
  remaining : Counters
  /-- The ids whose targets are all peeled off. The next of them comes first. -/
  ready : List String
  peeled : List String

namespace Worklist

/-- Counts down the targets of an id, which is ready with the last of them. Nothing goes on when a
counter that is zero is to be counted down. -/
def countDown (w : Worklist) (id : String) : Option Worklist :=
  match w.remaining.lookup id with
  | none => some w
  | some 0 => none
  | some (n + 1) =>
    some { w with
      remaining := w.remaining.put id n
      ready := if n = 0 then id :: w.ready else w.ready }

/-- Peels off an id that was taken from those that are ready, given what depends on which id. -/
def peelOff (m : Reverse) (w : Worklist) (id : String) : Option Worklist :=
  if w.peeled.contains id then some w
  else (m.under id).foldlM countDown { w with peeled := id :: w.peeled }

/-- A bound for the steps that are left. -/
def size (w : Worklist) : Nat := w.ready.length + w.remaining.total

/-- To count down leaves no more steps. -/
theorem size_countDown_le {w w' : Worklist} {id : String} (h : w.countDown id = some w') :
    w'.size ≤ w.size := by
  unfold countDown at h
  split at h
  case h_1 =>
    cases h
    exact Nat.le_refl _
  case h_2 => cases h
  case h_3 n hn =>
    cases h
    have htotal := Counters.total_put hn
    simp only [size]
    split
    · rw [List.length_cons]
      omega
    · omega

/-- To count down several ids leaves no more steps. -/
theorem size_foldlM_le {w w' : Worklist} {ids : List String}
    (h : ids.foldlM countDown w = some w') : w'.size ≤ w.size := by
  induction ids generalizing w with
  | nil =>
    cases h
    exact Nat.le_refl _
  | cons id rest ih =>
    rw [List.foldlM_cons] at h
    obtain ⟨next, hnext, h⟩ := Option.bind_eq_some_iff.1 h
    exact Nat.le_trans (ih h) (size_countDown_le hnext)

/-- To peel off an id leaves no more steps. -/
theorem size_peelOff_le {m : Reverse} {w w' : Worklist} {id : String}
    (h : w.peelOff m id = some w') : w'.size ≤ w.size := by
  unfold peelOff at h
  split at h
  · cases h
    exact Nat.le_refl _
  · show w'.size ≤ size { w with peeled := id :: w.peeled }
    exact size_foldlM_le h

/-- Peels off ids until none is ready. -/
def run (m : Reverse) (w : Worklist) : Option (List String) :=
  match _ready : w.ready with
  | [] => some w.peeled
  | id :: later =>
    match _peeled : { w with ready := later }.peelOff m id with
    | none => none
    | some w => run m w
termination_by w.size
decreasing_by
  refine Nat.lt_of_le_of_lt (size_peelOff_le _peeled) ?_
  simp only [size, _ready, List.length_cons]
  omega

end Worklist

/-! ## Where the work begins -/

/-- The first documents of their ids and the ids without a document, in the order in which they are
gone through. -/
structure Arrangement (docs : List Document) where
  index : Index
  dangling : List String
  index_perm : index.Perm (Index.ofList docs)
  dangling_perm : dangling.Perm index.dangling

namespace Arrangement

variable {docs : List Document}

/-- The order in which the ids are met. -/
def ofList (docs : List Document) : Arrangement docs :=
  ⟨Index.ofList docs, (Index.ofList docs).dangling, .rfl, .rfl⟩

/-- The work before anything is peeled off. An id is ready if it has no targets or no document; the
one that is found last is the next. -/
def start (a : Arrangement docs) : Worklist where
  remaining := (a.index.filter fun (_, doc) => !doc.dependsOn.isEmpty).map fun (id, doc) =>
    (id, doc.dependsOn.eraseDups.length)
  ready :=
    (((a.index.filter fun (_, doc) => doc.dependsOn.isEmpty).map (·.1)) ++ a.dangling).reverse
  peeled := []

/-- The ids that are peeled off. -/
def peel (a : Arrangement docs) : Option (List String) := a.start.run a.index.reverse

end Arrangement

/-- The ids from which no cycle is reached. -/
def acyclicIds (docs : List Document) : List String := (Arrangement.ofList docs).peel.getD []

end Dossier.Dependency

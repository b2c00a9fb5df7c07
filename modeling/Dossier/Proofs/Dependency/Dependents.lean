import Mathlib.Data.List.Nodup
import Dossier.Proofs.Dependency.Reverse
import Dossier.Proofs.Dependency.Walk
import Dossier.Proofs.FirstOccurrences

/-!
# What depends on an id

A change of an id affects the documents that list it, and over them others: `Affects` is the step
against the arrows, and the distance of an affected id is the least number of steps to it
(`IsDistance`). The search in breadth goes through these distances one after another: what it finds
from the front of its queue is a `level`, the level of the ids at one distance holds those at the
next (`Frontier.level`), and so it finds everything beyond the ids it starts from, each once and
the nearer first (`Frontier.isSweep_spread`).
-/

namespace Dossier

/-- Dropping repetitions leaves none. -/
theorem nodup_eraseDups {α : Type} [BEq α] [LawfulBEq α] (l : List α) : l.eraseDups.Nodup :=
  (firstOccurrences_eraseDups l).nodup

/-- Without repetitions a list is, in some order, any other list of its elements that has none. -/
theorem eraseDups_perm_of_nodup {α : Type} [BEq α] [LawfulBEq α] {l l' : List α} (hnd : l'.Nodup)
    (hmem : ∀ a, a ∈ l ↔ a ∈ l') : l.eraseDups.Perm l' := by
  refine (List.perm_ext_iff_of_nodup (nodup_eraseDups l) hnd).2 fun a => ?_
  rw [List.mem_eraseDups, hmem]

/-- Dropping repetitions goes with changing the order. -/
theorem eraseDups_perm {α : Type} [BEq α] [LawfulBEq α] {l l' : List α} (h : l.Perm l') :
    l.eraseDups.Perm l'.eraseDups := by
  refine eraseDups_perm_of_nodup (nodup_eraseDups l') fun a => ?_
  rw [List.mem_eraseDups, h.mem_iff]

namespace Dependency

variable {docs : List Document} {id dependent met : String} {known queue found : List String}
  {m n : Nat}

/-! ## Steps and distances -/

/-- A change of an id affects every document that lists it among what it depends on. -/
def Affects (docs : List Document) (id dependent : String) : Prop :=
  ∃ doc ∈ docs, id ∈ doc.dependsOn ∧ doc.id = dependent

/-- The dependents of an id are what its change affects. -/
theorem mem_dependents : dependent ∈ dependents docs id ↔ Affects docs id dependent := by
  simp only [dependents_eq, List.mem_map, List.mem_filter, List.contains_iff_mem,
    and_assoc, Affects]

/-- A change of an id affects another over a number of steps, at least one. -/
inductive AffectsOver (docs : List Document) (id : String) : Nat → String → Prop
  | direct {dependent : String} (h : Affects docs id dependent) : AffectsOver docs id 1 dependent
  | further {n : Nat} {met dependent : String} (hmet : AffectsOver docs id n met)
      (h : Affects docs met dependent) : AffectsOver docs id (n + 1) dependent

/-- The least number of steps over which a change of an id affects another. An id on a cycle is
affected by its own change, once round the cycle. -/
structure IsDistance (docs : List Document) (id dependent : String) (n : Nat) : Prop where
  affected : AffectsOver docs id n dependent
  least : ∀ m, AffectsOver docs id m dependent → n ≤ m

/-- Some number of steps is the same as steps one after another. -/
theorem exists_affectsOver_iff :
    (∃ n, AffectsOver docs id n dependent) ↔ Relation.TransGen (Affects docs) id dependent := by
  constructor
  · rintro ⟨n, h⟩
    induction h with
    | direct h => exact .single h
    | further _ h ih => exact ih.tail h
  · intro h
    induction h with
    | single h => exact ⟨1, .direct h⟩
    | tail _ h ih =>
      obtain ⟨n, hmet⟩ := ih
      exact ⟨n + 1, hmet.further h⟩

theorem AffectsOver.pos (h : AffectsOver docs id n dependent) : 0 < n := by
  cases h <;> exact Nat.succ_pos _

/-- One step affects what depends on the id directly. -/
theorem affectsOver_one_iff : AffectsOver docs id 1 dependent ↔ Affects docs id dependent := by
  refine ⟨fun h => ?_, .direct⟩
  cases h with
  | direct h => exact h
  | further hmet _ => exact absurd hmet.pos (Nat.lt_irrefl 0)

/-- The last of several steps goes from what the others affect. -/
theorem AffectsOver.exists_of_succ (hn : 0 < n) (h : AffectsOver docs id (n + 1) dependent) :
    ∃ met, AffectsOver docs id n met ∧ Affects docs met dependent := by
  cases h with
  | direct => exact absurd hn (Nat.lt_irrefl 0)
  | further hmet h => exact ⟨_, hmet, h⟩

/-- What is affected at all is affected at some distance. -/
theorem AffectsOver.exists_isDistance (h : AffectsOver docs id n dependent) :
    ∃ m ≤ n, IsDistance docs id dependent m := by
  induction n using Nat.strongRecOn with
  | ind n ih =>
    by_cases hless : ∃ m < n, AffectsOver docs id m dependent
    · obtain ⟨m, hm, hover⟩ := hless
      obtain ⟨k, hk, hdist⟩ := ih m hm hover
      exact ⟨k, by omega, hdist⟩
    · refine ⟨n, Nat.le_refl n, h, fun m hover => Nat.le_of_not_lt fun hm => ?_⟩
      exact hless ⟨m, hm, hover⟩

/-- An id is affected at one distance only. -/
theorem IsDistance.unique (h : IsDistance docs id dependent m)
    (h' : IsDistance docs id dependent n) : m = n :=
  Nat.le_antisymm (h.least n h'.affected) (h'.least m h.affected)

/-- What is one step from an affected id is no more than one step farther. -/
theorem IsDistance.exists_of_affects (hmet : IsDistance docs id met n)
    (h : Affects docs met dependent) : ∃ m ≤ n + 1, IsDistance docs id dependent m :=
  (hmet.affected.further h).exists_isDistance

/-- What is not at distance one is a step from something one nearer: distances leave no gaps. -/
theorem IsDistance.exists_of_succ (hn : 0 < n) (h : IsDistance docs id dependent (n + 1)) :
    ∃ met, IsDistance docs id met n ∧ Affects docs met dependent := by
  obtain ⟨met, hover, haffects⟩ := h.affected.exists_of_succ hn
  obtain ⟨m, hm, hmet⟩ := hover.exists_isDistance
  have hle : n + 1 ≤ m + 1 := h.least _ (hmet.affected.further haffects)
  obtain rfl : m = n := by omega
  exact ⟨met, hmet, haffects⟩

/-- If something is farther than a distance, something is just one farther. -/
theorem IsDistance.exists_succ_of_lt (hn : 0 < n) (h : IsDistance docs id dependent m)
    (hlt : n < m) : ∃ met, IsDistance docs id met (n + 1) := by
  induction m generalizing dependent with
  | zero => omega
  | succ m ih =>
    rcases Nat.lt_succ_iff_lt_or_eq.1 hlt with hlt | rfl
    · obtain ⟨met, hmet, -⟩ := h.exists_of_succ (by omega)
      exact ih hmet hlt
    · exact ⟨dependent, h⟩

/-! ## Levels of the search -/

/-- What a search finds next from an id is affected by it and new. -/
theorem mem_fresh : met ∈ (reverse docs).fresh known id ↔ met ∉ known ∧ Affects docs id met := by
  rw [Reverse.fresh, List.mem_eraseDups, List.mem_filter, ← dependents, mem_dependents, and_comm,
    Bool.not_eq_true', ← Bool.not_eq_true, List.contains_iff_mem]

/-- What a search finds from the ids at the front of its queue, one after another. -/
def level (docs : List Document) (known : List String) : (front : List String) → List String
  | [] => []
  | current :: rest =>
    (reverse docs).fresh known current ++
      level docs (known ++ (reverse docs).fresh known current) rest

/-- The ids found from the front of the queue are those that are new and affected by one of it. -/
theorem mem_level {front : List String} :
    met ∈ level docs known front ↔ met ∉ known ∧ ∃ current ∈ front, Affects docs current met := by
  induction front generalizing known with
  | nil => simp [level]
  | cons current rest ih =>
    simp only [level, List.mem_append, ih, mem_fresh, List.exists_mem_cons_iff]
    tauto

/-- No id is found twice from the front of the queue. -/
theorem nodup_level (docs : List Document) (known front : List String) :
    (level docs known front).Nodup := by
  induction front generalizing known with
  | nil => exact .nil
  | cons current rest ih =>
    refine List.nodup_append'.2 ⟨nodup_eraseDups _, ih _, fun met hfresh hlater => ?_⟩
    exact (mem_level.1 hlater).1 (List.mem_append_right _ hfresh)

/-- A search goes on from the first id in its queue. -/
theorem spread_cons (m : Reverse) (known : List String) (current : String) (rest : List String) :
    m.spread known (current :: rest) = m.fresh known current ++
      m.spread (known ++ m.fresh known current) (rest ++ m.fresh known current) := by
  rw [Reverse.spread]
  split
  case isTrue hnone => simp [hnone]
  case isFalse => rfl

/-- A search goes on from the ids at the front of its queue before it comes to those behind
them. -/
theorem spread_append (docs : List Document) (known front back : List String) :
    (reverse docs).spread known (front ++ back) = level docs known front ++
      (reverse docs).spread (known ++ level docs known front)
      (back ++ level docs known front) := by
  induction front generalizing known back with
  | nil => simp [level]
  | cons current rest ih =>
    rw [List.cons_append, spread_cons, List.append_assoc, ih]
    simp only [level, List.append_assoc]

/-- A search finds a level from the whole queue, and goes on from there. -/
theorem spread_eq_level_append (docs : List Document) (known queue : List String) :
    (reverse docs).spread known queue = level docs known queue ++
      (reverse docs).spread (known ++ level docs known queue) (level docs known queue) := by
  have h := spread_append docs known queue []
  rwa [List.append_nil, List.nil_append] at h

/-- What holds of nothing found where a level is empty, and of a level before what is found later
if it holds of that, holds of all that a search finds. -/
theorem spread_induction {P : List String → List String → List String → Prop}
    (hend : ∀ known queue, level docs known queue = [] → P known queue [])
    (hlevel : ∀ known queue later,
      P (known ++ level docs known queue) (level docs known queue) later →
      P known queue (level docs known queue ++ later))
    (known queue : List String) : P known queue ((reverse docs).spread known queue) := by
  induction hlen : ((reverse docs).unknown known).length using Nat.strongRecOn
    generalizing known queue with
  | ind k ih =>
    rw [spread_eq_level_append]
    by_cases hnone : level docs known queue = []
    · rw [hnone, List.append_nil, Reverse.spread, List.append_nil]
      exact hend known queue hnone
    · refine hlevel known queue _ (ih _ ?_ _ _ rfl)
      -- what the level holds is new, so fewer sources are unknown after it
      obtain ⟨met, hmet⟩ := List.exists_mem_of_ne_nil _ hnone
      obtain ⟨hnew, current, -, haffects⟩ := mem_level.1 hmet
      have hsource := Reverse.mem_sources_of_mem_under (mem_dependents.2 haffects)
      exact hlen ▸ Reverse.unknown_append_length_lt hsource hmet hnew

/-! ## What the search finds -/

/-- A search that has come to a distance: its queue holds the ids at that distance, and known are
those that are no farther. -/
structure Frontier (docs : List Document) (id : String) (n : Nat) (known queue : List String) :
    Prop where
  mem_known : ∀ met, met ∈ known ↔ ∃ m ≤ n, IsDistance docs id met m
  mem_queue : ∀ met, met ∈ queue ↔ IsDistance docs id met n

/-- The dependents of an id are at distance one. -/
theorem isDistance_one_iff : IsDistance docs id dependent 1 ↔ dependent ∈ dependents docs id := by
  rw [mem_dependents]
  exact ⟨fun h => affectsOver_one_iff.1 h.affected,
    fun h => ⟨.direct h, fun m hm => AffectsOver.pos hm⟩⟩

/-- A search starts at distance one. -/
theorem Frontier.dependents (docs : List Document) (id : String) :
    Frontier docs id 1 (dependents docs id) (dependents docs id) where
  mem_queue _ := isDistance_one_iff.symm
  mem_known met := by
    refine ⟨fun h => ⟨1, Nat.le_refl 1, isDistance_one_iff.2 h⟩, ?_⟩
    rintro ⟨m, hm, hdist⟩
    obtain rfl : m = 1 := Nat.le_antisymm hm hdist.affected.pos
    exact isDistance_one_iff.1 hdist

/-- The level of the ids at one distance holds those at the next. -/
theorem Frontier.mem_level (h : Frontier docs id n known queue) (hn : 0 < n) :
    met ∈ level docs known queue ↔ IsDistance docs id met (n + 1) := by
  rw [Dependency.mem_level, h.mem_known]
  constructor
  · rintro ⟨hfar, current, hcurrent, haffects⟩
    obtain ⟨m, hm, hdist⟩ := ((h.mem_queue current).1 hcurrent).exists_of_affects haffects
    obtain rfl : m = n + 1 := by
      by_contra hne
      exact hfar ⟨m, by omega, hdist⟩
    exact hdist
  · intro hdist
    obtain ⟨current, hcurrent, haffects⟩ := hdist.exists_of_succ hn
    refine ⟨?_, current, (h.mem_queue current).2 hcurrent, haffects⟩
    rintro ⟨m, hm, hnear⟩
    obtain rfl : m = n + 1 := hnear.unique hdist
    omega

/-- After a level the search has come one step farther. -/
theorem Frontier.level (h : Frontier docs id n known queue) (hn : 0 < n) :
    Frontier docs id (n + 1) (known ++ level docs known queue) (level docs known queue) where
  mem_queue _ := h.mem_level hn
  mem_known met := by
    rw [List.mem_append, h.mem_known, h.mem_level hn]
    constructor
    · rintro (⟨m, hm, hdist⟩ | hdist)
      · exact ⟨m, by omega, hdist⟩
      · exact ⟨n + 1, Nat.le_refl _, hdist⟩
    · rintro ⟨m, hm, hdist⟩
      rcases Nat.lt_or_eq_of_le hm with hm | rfl
      · exact .inl ⟨m, by omega, hdist⟩
      · exact .inr hdist

/-- The first id is affected at a distance that is not greater than that of the second. -/
def NoFarther (docs : List Document) (id near far : String) : Prop :=
  ∃ m n, IsDistance docs id near m ∧ IsDistance docs id far n ∧ m ≤ n

/-- All ids that are affected farther than a distance, each once and the nearer first. -/
structure IsSweep (docs : List Document) (id : String) (n : Nat) (found : List String) : Prop where
  mem_iff : ∀ met, met ∈ found ↔ ∃ m, n < m ∧ IsDistance docs id met m
  nodup : found.Nodup
  sorted : found.Pairwise (NoFarther docs id)

/-- A sweep of what is farther than the next distance goes on from the ids at that distance. -/
theorem IsSweep.append {front later : List String}
    (hfront : ∀ met, met ∈ front ↔ IsDistance docs id met (n + 1)) (hnodup : front.Nodup)
    (h : IsSweep docs id (n + 1) later) : IsSweep docs id n (front ++ later) where
  mem_iff met := by
    rw [List.mem_append, hfront, h.mem_iff]
    constructor
    · rintro (hdist | ⟨m, hm, hdist⟩)
      · exact ⟨n + 1, Nat.lt_succ_self n, hdist⟩
      · exact ⟨m, by omega, hdist⟩
    · rintro ⟨m, hm, hdist⟩
      rcases Nat.lt_or_eq_of_le hm with hm | rfl
      · exact .inr ⟨m, hm, hdist⟩
      · exact .inl hdist
  nodup := by
    refine List.nodup_append'.2 ⟨hnodup, h.nodup, fun met hmet hlater => ?_⟩
    obtain ⟨m, hm, hdist⟩ := (h.mem_iff met).1 hlater
    exact Nat.ne_of_lt hm (((hfront met).1 hmet).unique hdist)
  sorted := by
    refine List.pairwise_append.2 ⟨?_, h.sorted, fun near hnear far hfar => ?_⟩
    · refine List.pairwise_of_forall_mem_list fun near hnear far hfar => ?_
      exact ⟨n + 1, n + 1, (hfront near).1 hnear, (hfront far).1 hfar, Nat.le_refl _⟩
    · obtain ⟨m, hm, hdist⟩ := (h.mem_iff far).1 hfar
      exact ⟨n + 1, m, (hfront near).1 hnear, hdist, Nat.le_of_lt hm⟩

/-- A search that has come to a distance finds all ids that are farther. -/
theorem Frontier.isSweep_spread (h : Frontier docs id n known queue) (hn : 0 < n) :
    IsSweep docs id n ((reverse docs).spread known queue) := by
  -- one level at a time: the frontier goes one step farther, and the sweep grows at its front
  refine spread_induction
    (P := fun known queue found => ∀ n, 0 < n → Frontier docs id n known queue →
      IsSweep docs id n found) ?_ ?_ known queue n hn h
  · -- an empty level leaves nothing farther, since distances have no gaps
    intro known queue hnone n hn h
    refine ⟨fun met => ⟨fun hmet => by simp at hmet, ?_⟩, .nil, .nil⟩
    rintro ⟨m, hlt, hdist⟩
    obtain ⟨next, hnext⟩ := hdist.exists_succ_of_lt hn hlt
    have hmem := (h.mem_level hn).2 hnext
    simp [hnone] at hmem
  · intro known queue later ih n hn h
    exact (ih (n + 1) (Nat.succ_pos n) (h.level hn)).append (fun _ => h.mem_level hn)
      (nodup_level docs known queue)

/-- What depends on an id indirectly is what its change affects at a distance greater than one. -/
theorem isSweep_indirectDependents (docs : List Document) (id : String) :
    IsSweep docs id 1 (indirectDependents docs id) :=
  (Frontier.dependents docs id).isSweep_spread Nat.one_pos

/-- What depends on an id directly or indirectly is what its change affects. -/
theorem mem_dependents_or_indirectDependents :
    met ∈ dependents docs id ∨ met ∈ indirectDependents docs id ↔
      Relation.TransGen (Affects docs) id met := by
  rw [← exists_affectsOver_iff, ← isDistance_one_iff, (isSweep_indirectDependents docs id).mem_iff]
  constructor
  · rintro (hdist | ⟨m, -, hdist⟩)
    · exact ⟨1, hdist.affected⟩
    · exact ⟨m, hdist.affected⟩
  · rintro ⟨n, hover⟩
    obtain ⟨m, -, hdist⟩ := hover.exists_isDistance
    rcases Nat.lt_or_eq_of_le hdist.affected.pos with hm | rfl
    · exact .inr ⟨m, hm, hdist⟩
    · exact .inl hdist

/-! ## Both directions -/

/-- A change of what an id depends on affects the id. -/
theorem affects_of_dependsOn {target : String} (h : DependsOn docs id target) :
    Affects docs target id :=
  exists_document_of_dependsOn h

/-- An id that leads to another is affected by it. -/
theorem transGen_affects_of_transGen {target : String}
    (h : Relation.TransGen (DependsOn docs) id target) :
    Relation.TransGen (Affects docs) target id := by
  induction h with
  | single h => exact .single (affects_of_dependsOn h)
  | tail _ h ih => exact .head (affects_of_dependsOn h) ih

end Dependency

end Dossier

import Dossier.Dependency.Peeling
import Dossier.Proofs.Dependency.Index
import Dossier.Proofs.Dependency.Reverse
import Dossier.Proofs.Dependency.Walk
import Dossier.Proofs.FirstOccurrences

/-!
# Peeling ids off

In whichever order the work is begun, exactly the ids that lead into no cycle are peeled off
(`exists_peel`). What carries this is what a counter means: it says how many targets of its id are
not peeled off yet (`pending`). So it is not zero when one of them is peeled off, and its id is
ready when it gets zero. `Worklist.Honest` says so of all ids at once, and every step preserves it
(`Worklist.Honest.exists_peelOff`).
-/

namespace Dossier.Dependency

variable {docs : List Document} {id target : String} {ids peeled : List String}

/-! ## Ids and their targets -/

/-- The ids of documents and those that they depend on. -/
def IsPart (docs : List Document) (id : String) : Prop :=
  id ∈ docs.map (·.id) ∨ ∃ source, DependsOn docs source id

/-- The number of targets of an id that are not peeled off. -/
def pending (docs : List Document) (peeled : List String) (id : String) : Nat :=
  (targets docs id).eraseDups.countP fun target => !peeled.contains target

/-- No target of an id is left if all of them are peeled off. -/
theorem pending_eq_zero_iff : pending docs peeled id = 0 ↔
    ∀ target ∈ targets docs id, target ∈ peeled := by
  simp [pending, List.countP_eq_zero, List.mem_eraseDups]

/-- Among distinct ids one more is peeled off if it is there. -/
theorem countP_cons_of_nodup (hnd : ids.Nodup) (hnew : target ∉ peeled) :
    ids.countP (fun id => !peeled.contains id) =
      ids.countP (fun id => !(target :: peeled).contains id) + if target ∈ ids then 1 else 0 := by
  induction ids with
  | nil => rfl
  | cons id rest ih =>
    obtain ⟨hid, hnd⟩ := List.nodup_cons.1 hnd
    rw [List.countP_cons, List.countP_cons, ih hnd]
    by_cases h : id = target
    · subst h
      simp [hid, hnew]
    · have hsame : (target :: peeled).contains id = peeled.contains id := by simp [h]
      have hmem : target ∈ id :: rest ↔ target ∈ rest := by simp [Ne.symm h]
      rw [hsame, if_congr hmem rfl rfl]
      omega

/-- An id that is peeled off is one target less of those that depend on it. -/
theorem pending_cons (hnew : target ∉ peeled) (id : String) : pending docs peeled id =
    pending docs (target :: peeled) id + if DependsOn docs id target then 1 else 0 := by
  rw [pending, countP_cons_of_nodup (firstOccurrences_eraseDups _).nodup hnew]
  exact congrArg (_ + ·) (if_congr List.mem_eraseDups rfl rfl)

/-- Before anything is peeled off all targets are left. -/
theorem pending_nil_eq_zero_iff : pending docs [] id = 0 ↔ targets docs id = [] := by
  rw [pending_eq_zero_iff, List.eq_nil_iff_forall_not_mem]
  simp only [List.not_mem_nil, imp_false]

namespace Arrangement

variable (a : Arrangement docs)

/-- What depends on an id are the ids whose first document lists it. -/
theorem mem_dependents : id ∈ a.index.dependents target ↔ DependsOn docs id target := by
  simp only [Index.dependents_eq, List.mem_map, List.mem_filter, Prod.exists, exists_and_right,
    exists_eq_right, Index.mem_iff_of_perm a.index_perm, List.contains_iff_mem, DependsOn, targets]
  cases document? docs id <;> simp

/-- No id depends on another twice. -/
theorem nodup_dependents (target : String) : (a.index.dependents target).Nodup := by
  rw [Index.dependents_eq]
  exact (Index.nodup_of_perm a.index_perm).sublist (List.filter_sublist.map _)

/-- The dangling ids are those without a document that something depends on. -/
theorem mem_dangling :
    id ∈ a.dangling ↔ (∃ source, DependsOn docs source id) ∧ document? docs id = none := by
  rw [a.dangling_perm.mem_iff, Index.dangling, List.mem_filter, Index.reverse,
    Reverse.mem_targets_ofSources, Index.get?_of_perm a.index_perm, Option.isNone_iff_eq_none]
  refine and_congr_left fun _ => ?_
  simp only [Prod.exists, Index.mem_iff_of_perm a.index_perm, DependsOn]
  refine exists_congr fun source => ?_
  rw [targets]
  cases document? docs source <;> simp

end Arrangement

/-! ## Counting down -/

namespace Worklist

variable {w w' : Worklist}

/-- The counters of others stay when one is set. -/
theorem lookup_put (cs : Counters) (k : String) (n : Nat) (id : String) :
    (cs.put k n).lookup id = if id = k then (cs.lookup id).map fun _ => n else cs.lookup id := by
  induction cs with
  | nil => simp [Counters.put]
  | cons first rest ih =>
    obtain ⟨k', m⟩ := first
    rw [Counters.put]
    by_cases hk : k = k'
    · subst hk
      by_cases hid : id = k <;> simp [List.lookup_cons, hid, beq_eq_false_iff_ne.2]
    · rw [if_neg (mt beq_iff_eq.1 hk), List.lookup_cons, List.lookup_cons, ih]
      by_cases hid : id = k'
      · subst hid
        simp [Ne.symm hk]
      · simp [beq_eq_false_iff_ne.2 hid]

/-- What it is to count down the targets of ids: their counters are lower by one, those whose
counters were at one are ready, and nothing else changes. -/
structure CountedDown (ids : List String) (w w' : Worklist) : Prop where
  peeled_eq : w'.peeled = w.peeled
  lookup_eq : ∀ id, w'.remaining.lookup id =
    (w.remaining.lookup id).map fun n => if id ∈ ids then n - 1 else n
  mem_ready_iff : ∀ id, id ∈ w'.ready ↔ id ∈ w.ready ∨ id ∈ ids ∧ w.remaining.lookup id = some 1

/-- A counter that is not zero is counted down. -/
theorem exists_countDown (hpos : w.remaining.lookup id ≠ some 0) :
    ∃ w', w.countDown id = some w' ∧ CountedDown [id] w w' := by
  unfold countDown
  split
  case h_1 hnone =>
    refine ⟨w, rfl, rfl, fun k => ?_, fun k => ?_⟩
    · by_cases hk : k = id
      · subst hk
        rw [hnone]
        rfl
      · simp [hk]
    · refine ⟨.inl, ?_⟩
      rintro (hready | ⟨hk, hone⟩)
      · exact hready
      · rw [List.mem_singleton.1 hk, hnone] at hone
        cases hone
  case h_2 hzero => exact absurd hzero hpos
  case h_3 n hn =>
    refine ⟨_, rfl, rfl, fun k => ?_, fun k => ?_⟩
    · show (w.remaining.put id n).lookup k = _
      rw [lookup_put]
      by_cases hk : k = id
      · subst hk
        simp [hn]
      · simp [hk]
    · show k ∈ (if n = 0 then id :: w.ready else w.ready) ↔ _
      by_cases hzero : n = 0
      · subst hzero
        rw [if_pos rfl, List.mem_cons, List.mem_singleton, or_comm]
        refine or_congr_right (iff_self_and.2 ?_)
        rintro rfl
        exact hn
      · rw [if_neg hzero, List.mem_singleton]
        refine (or_iff_left ?_).symm
        rintro ⟨rfl, hone⟩
        rw [hn] at hone
        exact hzero (Nat.succ.inj (Option.some.inj hone))

/-- Distinct ids whose counters are not zero are all counted down. -/
theorem exists_foldlM_countDown (hnd : ids.Nodup)
    (hpos : ∀ id ∈ ids, w.remaining.lookup id ≠ some 0) :
    ∃ w', ids.foldlM countDown w = some w' ∧ CountedDown ids w w' := by
  induction ids generalizing w with
  | nil => exact ⟨w, rfl, rfl, fun id => by simp, fun id => by simp⟩
  | cons first rest ih =>
    obtain ⟨hfirst, hnd⟩ := List.nodup_cons.1 hnd
    obtain ⟨hpos, hrest⟩ := List.forall_mem_cons.1 hpos
    obtain ⟨next, hnext, hdown⟩ := exists_countDown hpos
    -- the counters of the rest are as they were, since `first` is none of them
    have hsame : ∀ id ∈ rest, next.remaining.lookup id = w.remaining.lookup id := by
      intro id hid
      have hne : id ≠ first := fun heq => hfirst (heq ▸ hid)
      rw [hdown.lookup_eq]
      simp [hne]
    obtain ⟨w', hw', hdown'⟩ := ih hnd (w := next) fun id hid => hsame id hid ▸ hrest id hid
    refine ⟨w', ?_, hdown'.peeled_eq.trans hdown.peeled_eq, fun id => ?_, fun id => ?_⟩
    · rw [List.foldlM_cons, hnext]
      exact hw'
    · rw [hdown'.lookup_eq, hdown.lookup_eq, Option.map_map]
      congr 1
      funext n
      by_cases hid : id = first
      · subst hid
        simp [hfirst]
      · simp [hid]
    · rw [hdown'.mem_ready_iff, hdown.mem_ready_iff, or_assoc, List.mem_singleton, List.mem_cons,
        or_and_right]
      refine or_congr_right (or_congr_right (and_congr_right fun hid => ?_))
      rw [hsame id hid]

/-! ## What a step preserves -/

/-- A worklist whose counters say what is left, and whose ids are where they belong. -/
structure Honest (docs : List Document) (w : Worklist) : Prop where
  lookup_eq : ∀ id, w.remaining.lookup id =
    if targets docs id = [] then none else some (pending docs w.peeled id)
  ready : ∀ id ∈ w.ready, IsPart docs id ∧ pending docs w.peeled id = 0
  peeled : ∀ id ∈ w.peeled, IsPart docs id ∧ Grounded docs id
  /-- An id none of whose targets are left is ready or peeled off. -/
  complete : ∀ id, IsPart docs id → pending docs w.peeled id = 0 → id ∈ w.ready ∨ id ∈ w.peeled
  nodup : w.peeled.Nodup

/-- The ids that are ready at the start are those without targets. -/
theorem mem_ready_start (a : Arrangement docs) : id ∈ a.start.ready ↔
    IsPart docs id ∧ targets docs id = [] := by
  have hsinks : id ∈ a.start.ready ↔
      (∃ doc, document? docs id = some doc ∧ doc.dependsOn = []) ∨ id ∈ a.dangling := by
    simp only [Arrangement.start, List.mem_reverse, List.mem_append, List.mem_map, List.mem_filter,
      Prod.exists, exists_and_right, exists_eq_right, Index.mem_iff_of_perm a.index_perm,
      List.isEmpty_iff]
  rw [hsinks, a.mem_dangling, IsPart, ← isSome_document?_iff]
  cases hdoc : document? docs id with
  | none => simp [targets, hdoc]
  | some doc => simp [targets, hdoc]

/-- The worklist is honest before anything is peeled off. -/
theorem honest_start (a : Arrangement docs) : Honest docs a.start where
  lookup_eq id := by
    have hkeys : (a.start.remaining.map (·.1)).Nodup := by
      show (((a.index.filter _).map _).map _).Nodup
      rw [List.map_map]
      exact (Index.nodup_of_perm a.index_perm).sublist (List.filter_sublist.map _)
    refine Option.ext fun n => ?_
    rw [lookup_eq_some_iff_mem hkeys]
    simp only [Arrangement.start, List.mem_map, List.mem_filter, Prod.exists,
      Index.mem_iff_of_perm a.index_perm, Prod.mk.injEq]
    cases hdoc : document? docs id with
    | none => simp [targets, hdoc]
    | some doc => simp [hdoc, pending, targets_of_document? hdoc]
  ready id hid := by
    obtain ⟨hpart, hnone⟩ := (mem_ready_start a).1 hid
    exact ⟨hpart, pending_nil_eq_zero_iff.2 hnone⟩
  peeled _ hid := nomatch hid
  complete id hpart hzero := .inl ((mem_ready_start a).2 ⟨hpart, pending_nil_eq_zero_iff.1 hzero⟩)
  nodup := List.nodup_nil

/-- When an id is peeled off, what depends on it is counted down: the counters say again what is
left, and the ids none of whose targets are left then are ready. -/
theorem Honest.exists_countedDown (a : Arrangement docs) (h : Honest docs w) (hnew : id ∉ w.peeled)
    (later : List String) :
    ∃ w', (a.index.dependents id).foldlM countDown
      { w with ready := later, peeled := id :: w.peeled } = some w' ∧
      w'.peeled = id :: w.peeled ∧
      (∀ k, w'.remaining.lookup k = if targets docs k = [] then none
        else some (pending docs (id :: w.peeled) k)) ∧
      ∀ k, k ∈ w'.ready ↔
        k ∈ later ∨ DependsOn docs k id ∧ pending docs (id :: w.peeled) k = 0 := by
  -- what depends on `id` has a counter, and `id` itself is one of the targets that are left
  have hcounter : ∀ k, DependsOn docs k id →
      w.remaining.lookup k = some (pending docs (id :: w.peeled) k + 1) := by
    intro k hk
    have hne : targets docs k ≠ [] := List.ne_nil_of_mem hk
    rw [h.lookup_eq, if_neg hne, pending_cons hnew, if_pos hk]
  obtain ⟨w', hw', hdown⟩ :=
    exists_foldlM_countDown (w := { w with ready := later, peeled := id :: w.peeled })
    (a.nodup_dependents id) fun k hk => by
      show w.remaining.lookup k ≠ some 0
      rw [hcounter k (a.mem_dependents.1 hk)]
      exact nofun
  refine ⟨w', hw', hdown.peeled_eq, fun k => ?_, fun k => ?_⟩
  · rw [hdown.lookup_eq]
    show (w.remaining.lookup k).map _ = _
    rw [h.lookup_eq, pending_cons hnew]
    by_cases hnone : targets docs k = []
    · rw [if_pos hnone, if_pos hnone, Option.map_none]
    · rw [if_neg hnone, if_neg hnone, Option.map_some]
      by_cases hk : DependsOn docs k id <;> simp [a.mem_dependents, hk]
  · rw [hdown.mem_ready_iff, a.mem_dependents]
    refine or_congr_right (and_congr_right fun hk => ?_)
    show w.remaining.lookup k = some 1 ↔ _
    rw [hcounter k hk, Option.some.injEq, Nat.add_eq_right]

/-- A worklist stays honest when an id is peeled off that is ready, and no counter goes below
zero. -/
theorem Honest.exists_peelOff (a : Arrangement docs) {later : List String} (h : Honest docs w)
    (hready : w.ready = id :: later) :
    ∃ w', { w with ready := later }.peelOff a.index.reverse id = some w' ∧ Honest docs w' := by
  obtain ⟨hpart, hzero⟩ := h.ready id (hready ▸ .head _)
  have hlater : ∀ k, k ∈ w.ready ↔ k = id ∨ k ∈ later := fun k => by rw [hready, List.mem_cons]
  unfold peelOff
  split
  case isTrue hpeeled =>
    have hid : id ∈ w.peeled := List.contains_iff_mem.1 hpeeled
    refine ⟨_, rfl, h.lookup_eq, fun k hk => h.ready k ((hlater k).2 (.inr hk)), h.peeled,
      fun k hk hzero => ?_, h.nodup⟩
    rcases h.complete k hk hzero with hk | hk
    · rcases (hlater k).1 hk with rfl | hk
      · exact .inr hid
      · exact .inl hk
    · exact .inr hk
  case isFalse hpeeled =>
    have hnew : id ∉ w.peeled := fun hid => hpeeled (List.contains_iff_mem.2 hid)
    obtain ⟨w', hw', hpeeled, hlookup, hmem⟩ := h.exists_countedDown a hnew later
    refine ⟨w', hw', fun k => ?_, fun k hk => ?_, fun k hk => ?_, fun k hk hzero => ?_, ?_⟩
    · rw [hpeeled]
      exact hlookup k
    · rw [hpeeled]
      rcases (hmem k).1 hk with hk | ⟨hk, hzero⟩
      · obtain ⟨hpart, hzero⟩ := h.ready k ((hlater k).2 (.inr hk))
        rw [pending_cons hnew] at hzero
        exact ⟨hpart, Nat.eq_zero_of_add_eq_zero_right hzero⟩
      · exact ⟨.inl (mem_ids_of_dependsOn hk), hzero⟩
    · rw [hpeeled] at hk
      rcases List.mem_cons.1 hk with rfl | hk
      · exact ⟨hpart, .intro fun target ht =>
          (h.peeled target (pending_eq_zero_iff.1 hzero target ht)).2⟩
      · exact h.peeled k hk
    · rw [hpeeled] at hzero ⊢
      rw [hmem]
      by_cases hdep : DependsOn docs k id
      · exact .inl (.inr ⟨hdep, hzero⟩)
      · have hbefore : pending docs w.peeled k = 0 := by rw [pending_cons hnew, hzero, if_neg hdep]
        rcases h.complete k hk hbefore with hk | hk
        · rcases (hlater k).1 hk with rfl | hk
          · exact .inr (.head _)
          · exact .inl (.inl hk)
        · exact .inr (.tail _ hk)
    · rw [hpeeled]
      exact List.nodup_cons.2 ⟨hnew, h.nodup⟩

/-! ## What a run peels off -/

/-- From an honest worklist exactly the grounded ids are peeled off. -/
theorem Honest.exists_run (a : Arrangement docs) (h : Honest docs w) :
    ∃ ids, w.run a.index.reverse = some ids ∧ ids.Nodup ∧
      ∀ id, id ∈ ids ↔ IsPart docs id ∧ Grounded docs id := by
  fun_induction run a.index.reverse w with
  | case1 w hnone =>
    refine ⟨_, rfl, h.nodup, fun id => ⟨h.peeled id, ?_⟩⟩
    rintro ⟨hpart, hground⟩
    induction hground with
    | @intro id _ ih =>
      have hzero : pending docs w.peeled id = 0 :=
        pending_eq_zero_iff.2 fun target ht => ih target ht (.inr ⟨id, ht⟩)
      refine (h.complete id hpart hzero).resolve_left ?_
      rw [hnone]
      exact List.not_mem_nil
  | case2 w id later hready hfail =>
    obtain ⟨w', hw', -⟩ := h.exists_peelOff a hready
    rw [hfail] at hw'
    cases hw'
  | case3 w id later hready w' hw' ih =>
    obtain ⟨next, hnext, hhonest⟩ := h.exists_peelOff a hready
    rw [hw'] at hnext
    cases hnext
    exact ih hhonest

end Worklist

/-- Exactly the grounded ids are peeled off, in whichever order the work is begun. -/
theorem Arrangement.exists_ids (a : Arrangement docs) :
    ∃ ids, a.peel = some ids ∧ ids.Nodup ∧ ∀ id, id ∈ ids ↔ IsPart docs id ∧ Grounded docs id :=
  (Worklist.honest_start a).exists_run a

/-- The ids that are peeled off are the grounded ones. -/
theorem mem_acyclicIds_iff : id ∈ acyclicIds docs ↔ IsPart docs id ∧ Grounded docs id := by
  obtain ⟨ids, hids, -, hmem⟩ := (Arrangement.ofList docs).exists_ids
  rw [acyclicIds, hids, Option.getD_some, hmem]

/-- **Peeling finds the ids that lead into no cycle.** In whichever order documents and dangling
ids are gone through, the work comes to an end and no counter is counted down below zero. What is
peeled off, each id once, are those ids of documents and of what they depend on that lead into no
cycle. The dangling ones are among them. -/
theorem exists_peel (docs : List Document) (a : Arrangement docs) :
    ∃ ids, a.peel = some ids ∧ ids.Nodup ∧
      (∀ id, id ∈ ids ↔
        (id ∈ docs.map (·.id) ∨ ∃ source, DependsOn docs source id) ∧ ¬ LeadsIntoCycle docs id) ∧
      (∀ id, (∃ source, DependsOn docs source id) → id ∉ docs.map (·.id) → id ∈ ids) ∧
      ∀ id, id ∈ acyclicIds docs ↔ id ∈ ids := by
  obtain ⟨ids, hids, hnodup, hmem⟩ := a.exists_ids
  refine ⟨ids, hids, hnodup, fun id => ?_, fun id hsource hnone => ?_, fun id => ?_⟩
  · rw [hmem, grounded_iff_not_leadsIntoCycle]
    rfl
  · have htargets : targets docs id = [] := by
      rw [targets, Option.not_isSome_iff_eq_none.1 (mt isSome_document?_iff.1 hnone)]
    exact (hmem id).2 ⟨.inr hsource, .of_targets_eq_nil htargets⟩
  · rw [mem_acyclicIds_iff, hmem]

/-- Two documents around a cycle and one that leads into it are left, as is one that depends on
itself. -/
example :
    (Arrangement.ofList
      [sample "A" ["B"], sample "B" ["C"], sample "C" ["B", "D"], sample "D" ["X"],
    sample "E" ["E"]]).peel = some ["D", "X"] := by
  cbv

end Dossier.Dependency

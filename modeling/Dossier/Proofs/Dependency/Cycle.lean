import Dossier.Dependency.Cycle
import Dossier.Proofs.Collection
import Dossier.Proofs.Dependency.LongestChain

/-!
# Finding cycles

What the search answers with is a cycle, and every id on it is reached from the start
(`isCycle_of_search`). A search that finds none has shown its id to be grounded, and so every id
that it visited and left again (`grounded_of_search`): an id is left when all its targets are
grounded. The search leaves too early only when the path is as long as the depth limit, which no
trail from a `Shallow` id is, and in a collection of no more documents than the limit every id is
shallow.
-/

namespace Dossier.Dependency

variable {docs : List Document} {start id target : String} {room : Nat}
  {path visited visited' cycle : List String}

/-! ## Folds that may stop -/

section

variable {α ε σ : Type} {f : σ → α → Except ε σ} {l : List α} {s s' : σ} {e : ε}

/-- A fold that stops was stopped by one of its steps. -/
theorem exists_of_foldlM_eq_error (h : l.foldlM f s = .error e) :
    ∃ a ∈ l, ∃ t, f t a = .error e := by
  induction l generalizing s with
  | nil => cases h
  | cons a rest ih =>
    rw [List.foldlM_cons] at h
    cases ha : f s a with
    | error e' =>
      rw [ha] at h
      cases h
      exact ⟨a, .head _, s, ha⟩
    | ok t =>
      rw [ha] at h
      obtain ⟨b, hb, t', hbt⟩ := ih h
      exact ⟨b, .tail _ hb, t', hbt⟩

/-- What every step of a fold preserves holds at the end, and what every step shows of its element
holds of all of them. -/
theorem forall_of_foldlM_eq_ok {P : σ → Prop} {Q : α → Prop}
    (hstep : ∀ a ∈ l, ∀ t t', P t → f t a = .ok t' → Q a ∧ P t')
    (h : l.foldlM f s = .ok s') (hs : P s) : (∀ a ∈ l, Q a) ∧ P s' := by
  induction l generalizing s with
  | nil =>
    cases h
    exact ⟨fun _ ha => by simp at ha, hs⟩
  | cons a rest ih =>
    rw [List.foldlM_cons] at h
    cases ha : f s a with
    | error e =>
      rw [ha] at h
      cases h
    | ok t =>
      rw [ha] at h
      obtain ⟨hq, ht⟩ := hstep a (.head _) s t hs ha
      obtain ⟨hrest, hs'⟩ := ih (fun b hb => hstep b (.tail _ hb)) h ht
      exact ⟨List.forall_mem_cons.2 ⟨hq, hrest⟩, hs'⟩

end

/-! ## One step of a search -/

/-- A search that enters an id goes on to its targets. -/
theorem search_succ (hid : id ∉ path) (hvis : id ∉ visited) :
    search (.ofList docs) (room + 1) path visited id =
      (targets docs id).foldlM (search (.ofList docs) room (id :: path)) (id :: visited) := by
  rw [search, targets, Collection.get?_ofList]
  simp only [List.contains_iff_mem, hid, hvis, if_false]
  cases document? docs id <;> rfl

/-- A search closes a cycle at an id on its path. -/
theorem search_of_mem_path (hid : id ∈ path) :
    search (.ofList docs) room path visited id = .error (cycleOn path id) := by
  unfold search
  simp [hid]

/-- A search passes by an id visited before. -/
theorem search_of_mem_visited (hid : id ∉ path) (hvis : id ∈ visited) :
    search (.ofList docs) room path visited id = .ok visited := by
  unfold search
  simp [hid, hvis]

/-- A search without room visits an id and does not enter it. -/
theorem search_zero (hid : id ∉ path) (hvis : id ∉ visited) :
    search (.ofList docs) 0 path visited id = .ok (id :: visited) := by
  simp [search, hid, hvis]

/-- What a search can do at an id: close a cycle, pass by an id visited before, stop for want of
room, or enter the id and go on to its targets. -/
theorem search_cases (docs : List Document) (room : Nat) (path visited : List String)
    (id : String) :
    (id ∈ path ∧ search (.ofList docs) room path visited id = .error (cycleOn path id)) ∨
    (id ∉ path ∧ id ∈ visited ∧ search (.ofList docs) room path visited id = .ok visited) ∨
    (id ∉ path ∧ room = 0 ∧ search (.ofList docs) room path visited id = .ok (id :: visited)) ∨
    ∃ r, room = r + 1 ∧ id ∉ path ∧ search (.ofList docs) room path visited id =
      (targets docs id).foldlM (search (.ofList docs) r (id :: path)) (id :: visited) := by
  by_cases hid : id ∈ path
  · exact .inl ⟨hid, search_of_mem_path hid⟩
  by_cases hvis : id ∈ visited
  · exact .inr (.inl ⟨hid, hvis, search_of_mem_visited hid hvis⟩)
  cases room with
  | zero => exact .inr (.inr (.inl ⟨hid, rfl, search_zero hid hvis⟩))
  | succ r => exact .inr (.inr (.inr ⟨r, rfl, hid, search_succ hid hvis⟩))

/-! ## What a search finds -/

/-- A path, kept from its end, along which a search has come from its start to an id. -/
structure SearchPath (docs : List Document) (start : String) (path : List String) (id : String) :
    Prop where
  walk : IsWalk docs (path.reverse ++ [id])
  nodup : path.Nodup
  reached : ∀ met ∈ id :: path, LeadsTo docs start met

theorem SearchPath.nil (docs : List Document) (start : String) :
    SearchPath docs start [] start where
  walk := .singleton start
  nodup := .nil
  reached met hmet := by
    cases List.mem_singleton.1 hmet
    exact .refl

/-- A path goes on from an id that it has not met to the targets of that id. -/
theorem SearchPath.cons (h : SearchPath docs start path id) (hid : id ∉ path)
    (ht : DependsOn docs id target) : SearchPath docs start (id :: path) target where
  walk := by
    rw [List.reverse_cons, List.append_assoc]
    exact List.isChain_append_cons_cons.2 ⟨h.walk, ht, .singleton target⟩
  nodup := List.nodup_cons.2 ⟨hid, h.nodup⟩
  reached met hmet := by
    rcases List.mem_cons.1 hmet with rfl | hmet
    · exact (h.reached id (.head _)).tail ht
    · exact h.reached met hmet

/-- A path closes a cycle at an id that it has met. -/
theorem SearchPath.isCycle (h : SearchPath docs start path id) (hid : id ∈ path) :
    IsCycle docs (cycleOn path id) ∧ ∀ met ∈ cycleOn path id, LeadsTo docs start met := by
  obtain ⟨before, after, rfl, hbefore⟩ := List.eq_append_cons_of_mem hid
  have hcycle : cycleOn (before ++ id :: after) id = id :: before.reverse ++ [id] := by
    have hne : ∀ met ∈ before, (met != id) = true := fun met hmet =>
      bne_iff_ne.2 fun heq => hbefore (heq ▸ hmet)
    rw [cycleOn, List.takeWhile_append_of_pos hne]
    simp
  rw [hcycle]
  refine ⟨⟨by simp, ?_, ?_, ?_⟩, fun met hmet => h.reached met ?_⟩
  · rw [List.getLast?_concat]
    rfl
  · refine h.walk.suffix ⟨after.reverse, ?_⟩
    simp
  · rw [List.dropLast_concat, List.nodup_cons, List.mem_reverse, List.nodup_reverse]
    exact ⟨hbefore, (List.nodup_append.1 h.nodup).1⟩
  · simp only [List.mem_append, List.mem_cons, List.mem_reverse] at hmet ⊢
    tauto

/-- A path with the id at its end and a target of that id is a trail. -/
theorem SearchPath.isTrail_concat (h : SearchPath docs start path id)
    (hstart : (id :: path).getLast? = some start) (hid : id ∉ path)
    (ht : DependsOn docs id target) :
    IsTrail docs (path.length + 1) start ((id :: path).reverse ++ [target]) where
  head := by
    rw [List.head?_append_of_ne_nil _ (by simp), List.head?_reverse, hstart]
  walk := (h.cons hid ht).walk
  nodup := by
    rw [List.dropLast_concat, List.nodup_reverse]
    exact List.nodup_cons.2 ⟨hid, h.nodup⟩
  length_le := by simp

/-- What a search finds is a cycle, and its start leads to every id on it. -/
theorem isCycle_of_search (hp : SearchPath docs start path id)
    (h : search (.ofList docs) room path visited id = .error cycle) :
    IsCycle docs cycle ∧ ∀ met ∈ cycle, LeadsTo docs start met := by
  induction room using Nat.strongRecOn generalizing path visited id with
  | ind room ih =>
    rcases search_cases docs room path visited id with
      ⟨hid, heq⟩ | ⟨-, -, heq⟩ | ⟨-, -, heq⟩ | ⟨r, hr, hid, heq⟩
    · rw [heq] at h
      cases h
      exact hp.isCycle hid
    · rw [heq] at h
      cases h
    · rw [heq] at h
      cases h
    · rw [heq] at h
      obtain ⟨target, ht, seen, hsearch⟩ := exists_of_foldlM_eq_error h
      exact ih r (by omega) (hp.cons hid ht) hsearch

/-! ## What a search shows that finds nothing -/

/-- The ids visited that are not on the path are grounded. -/
def Left (docs : List Document) (path visited : List String) : Prop :=
  ∀ met ∈ visited, met ∉ path → Grounded docs met

theorem Left.nil (docs : List Document) : Left docs [] [] := fun _ hmet => by simp at hmet

/-- An id that is entered is on the path, so it need not be grounded yet. -/
theorem Left.cons (h : Left docs path visited) : Left docs (id :: path) (id :: visited) := by
  intro met hmet hpath
  rcases List.mem_cons.1 hmet with rfl | hmet
  · exact absurd (.head _) hpath
  · exact h met hmet fun hm => hpath (.tail _ hm)

/-- An id that is grounded may be taken off the path. -/
theorem Left.of_cons (h : Left docs (id :: path) visited) (hg : Grounded docs id) :
    Left docs path visited := by
  intro met hmet hpath
  by_cases heq : met = id
  · exact heq ▸ hg
  · exact h met hmet fun hm => (List.mem_cons.1 hm).elim heq hpath

/-- A search from a shallow id that finds no cycle has shown its id to be grounded and left only
grounded ids. -/
theorem grounded_of_search (hshallow : Shallow docs start) (hp : SearchPath docs start path id)
    (hstart : (id :: path).getLast? = some start) (hroom : room + path.length = depthLimit)
    (hleft : Left docs path visited)
    (h : search (.ofList docs) room path visited id = .ok visited') :
    Grounded docs id ∧ Left docs path visited' := by
  induction room using Nat.strongRecOn generalizing path visited visited' id with
  | ind room ih =>
    rcases search_cases docs room path visited id with
      ⟨-, heq⟩ | ⟨hid, hvis, heq⟩ | ⟨hid, hr, heq⟩ | ⟨r, hr, hid, heq⟩
    · rw [heq] at h
      cases h
    · rw [heq] at h
      cases h
      exact ⟨hleft id hvis hid, hleft⟩
    · rw [heq] at h
      cases h
      -- the path is as long as the limit, so a target of the id would make a trail that is too
      -- long
      have hg : Grounded docs id := .intro fun target ht => by
        have hle := hshallow _ _ (hp.isTrail_concat hstart hid ht)
        simp only [List.length_append, List.length_reverse, List.length_cons, List.length_nil]
          at hle
        omega
      exact ⟨hg, hleft.cons.of_cons hg⟩
    · rw [heq] at h
      have hstep : ∀ target ∈ targets docs id, ∀ seen seen', Left docs (id :: path) seen →
          search (.ofList docs) r (id :: path) seen target = .ok seen' →
          Grounded docs target ∧ Left docs (id :: path) seen' := by
        intro target ht seen seen' hseen hsearch
        have hroom' : r + (id :: path).length = depthLimit := by
          rw [List.length_cons]
          omega
        have hstart' : (target :: id :: path).getLast? = some start := by
          rwa [List.getLast?_cons_cons]
        exact ih r (by omega) (hp.cons hid ht) hstart' hroom' hseen hsearch
      obtain ⟨hall, hleft'⟩ := forall_of_foldlM_eq_ok hstep h hleft.cons
      have hg : Grounded docs id := .intro hall
      exact ⟨hg, hleft'.of_cons hg⟩

/-! ## Finding a cycle -/

/-- What is found is a cycle that the start leads into. -/
theorem isCycle_of_findCycle? (h : findCycle? (.ofList docs) start = some cycle) :
    IsCycle docs cycle ∧ ∀ met ∈ cycle, LeadsTo docs start met := by
  unfold findCycle? at h
  split at h
  case h_1 hsearch =>
    cases h
    exact isCycle_of_search (.nil docs start) hsearch
  case h_2 => cases h

/-- If nothing is found from a shallow id, the id is grounded. -/
theorem Shallow.grounded_of_findCycle?_eq_none (hshallow : Shallow docs start)
    (h : findCycle? (.ofList docs) start = none) : Grounded docs start := by
  unfold findCycle? at h
  split at h
  case h_1 => cases h
  case h_2 hsearch =>
    exact (grounded_of_search hshallow (.nil docs start) rfl (Nat.add_zero _) (.nil docs)
      hsearch).1

/-- If nothing is found among no more documents than the depth limit, the start is grounded. -/
theorem grounded_of_findCycle?_eq_none (hdocs : docs.length ≤ depthLimit)
    (h : findCycle? (.ofList docs) start = none) : Grounded docs start :=
  (shallow_of_length_le hdocs start).grounded_of_findCycle?_eq_none h

/-- Where something is found, the start leads into a cycle. -/
theorem leadsIntoCycle_of_findCycle? (h : findCycle? (.ofList docs) start = some cycle) :
    LeadsIntoCycle docs start := by
  obtain ⟨hcycle, hreached⟩ := isCycle_of_findCycle? h
  obtain ⟨turn, hturn⟩ := hcycle.exists_head
  exact ⟨turn, hreached turn (List.mem_of_mem_head? hturn), hcycle.onCycle hturn⟩

/-- From a shallow id a cycle is found exactly if the id leads into one. -/
theorem Shallow.isSome_findCycle?_iff (hshallow : Shallow docs start) :
    (findCycle? (.ofList docs) start).isSome ↔ LeadsIntoCycle docs start := by
  refine ⟨fun h => ?_, fun h => ?_⟩
  · obtain ⟨cycle, hfound⟩ := Option.isSome_iff_exists.1 h
    exact leadsIntoCycle_of_findCycle? hfound
  · rw [Option.isSome_iff_ne_none]
    exact fun hnone => (hshallow.grounded_of_findCycle?_eq_none hnone).not_leadsIntoCycle h

/-- **A cycle is found where there is one.** What is found is a cycle whose ids are all reached
from the start, in any collection. Among no more documents than the depth limit, one is found
exactly if the start leads into a cycle. -/
theorem findCycle?_sound_complete (docs : List Document) (start : String) :
    (∀ cycle, findCycle? (.ofList docs) start = some cycle →
      IsCycle docs cycle ∧ ∀ id ∈ cycle, LeadsTo docs start id) ∧
    (docs.length ≤ depthLimit →
      ((findCycle? (.ofList docs) start).isSome ↔ LeadsIntoCycle docs start)) := by
  refine ⟨fun cycle h => isCycle_of_findCycle? h, fun hdocs => ⟨fun h => ?_, fun h => ?_⟩⟩
  · obtain ⟨cycle, hfound⟩ := Option.isSome_iff_exists.1 h
    obtain ⟨hcycle, hreached⟩ := isCycle_of_findCycle? hfound
    obtain ⟨turn, hturn⟩ := hcycle.exists_head
    exact ⟨turn, hreached turn (List.mem_of_mem_head? hturn), hcycle.onCycle hturn⟩
  · rw [Option.isSome_iff_ne_none]
    exact fun hnone => (grounded_of_findCycle?_eq_none hdocs hnone).not_leadsIntoCycle h

/-- Two ways to one cycle that the start is not on, among a dangling target and an id that comes
twice. -/
def roundabout : List Document :=
  [sample "A" ["X", "B", "C"], sample "B" ["D"], sample "C" ["D"], sample "D" ["C"], sample "D" []]

/-- The cycle at the end of the roundabout is found, and none from the dangling target. -/
theorem findCycle?_roundabout :
    roundabout.length ≤ depthLimit ∧ IsCycle roundabout ["D", "C", "D"] ∧
      LeadsIntoCycle roundabout "A" ∧ ¬ LeadsIntoCycle roundabout "X" := by
  have hlen : roundabout.length ≤ depthLimit := by decide
  have hA := findCycle?_sound_complete roundabout "A"
  have hX := findCycle?_sound_complete roundabout "X"
  refine ⟨hlen, (hA.1 _ (by decide)).1, (hA.2 hlen).1 (by decide), fun h => ?_⟩
  exact absurd ((hX.2 hlen).2 h) (by decide)

end Dossier.Dependency

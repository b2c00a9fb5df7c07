import Dossier.Proofs.Dependency.Cycle
import Dossier.Proofs.Dependency.Order
import Dossier.Proofs.Dependency.Rearrangement
import Dossier.Proofs.Validation.Check
import Dossier.Validation.Report

/-!
# Reports of cycles

A report on a collection tells of a cycle at a document that lists dependencies and from which one
is found (`tellsCycle_iff`). It never tells of a cycle where there is none, however the
dependencies are ordered, and at a shallow document the order does not matter
(`tellsCycle_of_reordered`).

Where trails go through more ids than the depth limit the order does matter (`tellsCycle_detour`):
the search notes an id as visited even where it has no room left to enter it. An id that a long way
round reaches first is then passed by on the short way, and the cycle behind it stays unseen.
-/

namespace Dossier.Validation

open Dependency

variable {taxonomy : Taxonomy} {docs docs' : List Document} {doc : Document} {position : Nat}

/-! ## What is reported -/

/-- A report on a collection tells of a cycle at a position. -/
def CollectionReport.TellsCycle (r : CollectionReport) (position : Nat) : Prop :=
  ∃ entry ∈ r.entries[position]?, ∃ issue ∈ entry.report.issues, issue.code = "CIRCULAR_DEPENDENCY"

/-- Only cycles have the code of a cycle. -/
theorem code_eq_circular_iff {issue : Issue} :
    issue.code = "CIRCULAR_DEPENDENCY" ↔ ∃ cycle, issue = .circularDependency cycle := by
  cases issue <;> simp [Issue.code]

/-- A cycle is among the issues of a document that lists dependencies if it is found from its
id. -/
theorem circularDependency_mem_checkDocument {c : Collection} {cycle : List String} :
    .circularDependency cycle ∈ checkDocument taxonomy (some c) doc ↔
      doc.dependsOn ≠ [] ∧ findCycle? c doc.id = some cycle := by
  simp [mem_checkDocument, mem_checkStructure, mem_checkDomain, mem_checkContent,
    mem_checkReferences]

/-- A report tells of a cycle at a document that lists dependencies and from whose id one is
found. -/
theorem tellsCycle_iff :
    (validateCollection taxonomy (.ofList docs)).TellsCycle position ↔
      ∃ doc ∈ docs[position]?, doc.dependsOn ≠ [] ∧ (findCycle? (.ofList docs) doc.id).isSome := by
  have hentries : (validateCollection taxonomy (.ofList docs)).entries =
      docs.map fun doc => ⟨doc.id, doc.source, validate taxonomy (some (.ofList docs)) doc⟩ := rfl
  have hcycle : ∀ doc, (∃ issue ∈ checkDocument taxonomy (some (.ofList docs)) doc,
      issue.code = "CIRCULAR_DEPENDENCY") ↔
        doc.dependsOn ≠ [] ∧ (findCycle? (.ofList docs) doc.id).isSome := by
    intro doc
    simp only [code_eq_circular_iff, Option.isSome_iff_exists]
    constructor
    · rintro ⟨_, hmem, cycle, rfl⟩
      obtain ⟨hlists, hfound⟩ := circularDependency_mem_checkDocument.1 hmem
      exact ⟨hlists, cycle, hfound⟩
    · rintro ⟨hlists, cycle, hfound⟩
      exact ⟨_, circularDependency_mem_checkDocument.2 ⟨hlists, hfound⟩, cycle, rfl⟩
  rw [CollectionReport.TellsCycle, hentries, List.getElem?_map]
  constructor
  · rintro ⟨_, hentry, hissue⟩
    obtain ⟨doc, hdoc, rfl⟩ := Option.map_eq_some_iff.1 hentry
    exact ⟨doc, hdoc, (hcycle doc).1 hissue⟩
  · rintro ⟨doc, hdoc, hfound⟩
    exact ⟨_, Option.mem_map_of_mem _ hdoc, (hcycle doc).2 hfound⟩

/-- A report tells of a cycle only at a document that leads into one. -/
theorem exists_leadsIntoCycle_of_tellsCycle
    (h : (validateCollection taxonomy (.ofList docs)).TellsCycle position) :
    ∃ doc ∈ docs[position]?, doc.dependsOn ≠ [] ∧ LeadsIntoCycle docs doc.id := by
  obtain ⟨doc, hdoc, hlists, hsome⟩ := tellsCycle_iff.1 h
  obtain ⟨cycle, hfound⟩ := Option.isSome_iff_exists.1 hsome
  exact ⟨doc, hdoc, hlists, leadsIntoCycle_of_findCycle? hfound⟩

/-- A report tells of every cycle that a shallow document with dependencies leads into. -/
theorem tellsCycle_of_leadsIntoCycle (hdoc : doc ∈ docs[position]?) (hlists : doc.dependsOn ≠ [])
    (hshallow : Shallow docs doc.id) (hcycle : LeadsIntoCycle docs doc.id) :
    (validateCollection taxonomy (.ofList docs)).TellsCycle position :=
  tellsCycle_iff.2 ⟨doc, hdoc, hlists, hshallow.isSome_findCycle?_iff.2 hcycle⟩

/-! ## Reordered dependencies -/

/-- Documents each of which is reordered are rearranged. -/
theorem rearranged_of_reordered (h : List.Forall₂ Document.Reordered docs docs') :
    List.Forall₂ Document.Rearranged docs docs' :=
  h.imp fun _ _ hdoc => hdoc.rearranged

/-- What a report tells of in one order is a cycle in the other. -/
theorem exists_leadsIntoCycle_of_reordered (h : List.Forall₂ Document.Reordered docs docs')
    (htells : (validateCollection taxonomy (.ofList docs)).TellsCycle position) :
    ∃ doc ∈ docs'[position]?, doc.dependsOn ≠ [] ∧ LeadsIntoCycle docs' doc.id := by
  obtain ⟨doc, hdoc, hlists, hcycle⟩ := exists_leadsIntoCycle_of_tellsCycle htells
  obtain ⟨doc', hdoc', hreordered⟩ := exists_getElem?_of_forall₂ h hdoc
  refine ⟨doc', hdoc', fun hnone => hlists ?_, ?_⟩
  · exact List.perm_nil.1 (hnone ▸ hreordered.dependsOn)
  · rw [← hreordered.rearranged.id_eq]
    exact (leadsIntoCycle_iff_of_rearranged (rearranged_of_reordered h)).1 hcycle

/-- **Of shallow documents the same are reported in every order.** If two collections differ at
most in the order in which documents list what they depend on, then what the report on the one
tells of is a cycle in the other; and at a shallow document the reports on both tell of a cycle or
neither does. -/
theorem tellsCycle_of_reordered (taxonomy : Taxonomy) (docs docs' : List Document)
    (h : List.Forall₂ Document.Reordered docs docs') (position : Nat) :
    ((validateCollection taxonomy (.ofList docs)).TellsCycle position →
      ∃ doc ∈ docs'[position]?, doc.dependsOn ≠ [] ∧ LeadsIntoCycle docs' doc.id) ∧
    ((∀ doc ∈ docs[position]?, Shallow docs doc.id) →
      ((validateCollection taxonomy (.ofList docs)).TellsCycle position ↔
        (validateCollection taxonomy (.ofList docs')).TellsCycle position)) := by
  have hback : List.Forall₂ Document.Reordered docs' docs :=
    h.flip.imp fun _ _ hdoc => hdoc.symm
  refine ⟨exists_leadsIntoCycle_of_reordered h, fun hshallow =>
    ⟨fun htells => ?_, fun htells => ?_⟩⟩
  · obtain ⟨doc', hdoc', hlists, hcycle⟩ := exists_leadsIntoCycle_of_reordered h htells
    obtain ⟨doc, hdoc, hreordered⟩ := exists_getElem?_of_forall₂ hback hdoc'
    refine tellsCycle_of_leadsIntoCycle hdoc' hlists ?_ hcycle
    rw [hreordered.rearranged.id_eq]
    exact (shallow_iff_of_rearranged (rearranged_of_reordered h)).1 (hshallow doc hdoc)
  · obtain ⟨doc, hdoc, hlists, hcycle⟩ := exists_leadsIntoCycle_of_reordered hback htells
    exact tellsCycle_of_leadsIntoCycle hdoc hlists (hshallow doc hdoc) hcycle

/-- Three documents on a cycle, the first of which also lists an id that is on no document. -/
def threeAround : List Document := [sample "A" ["X", "B"], sample "B" ["C"], sample "C" ["B", "A"]]

/-- The cycle is reported at the first document in the other order too. -/
theorem tellsCycle_of_reordered_threeAround :
    List.Forall₂ Document.Reordered threeAround
        [sample "A" ["B", "X"], sample "B" ["C"], sample "C" ["A", "B"]] ∧
      (∀ doc ∈ threeAround[0]?, Shallow threeAround doc.id) ∧
      (validateCollection .canonical
        (.ofList [sample "A" ["B", "X"], sample "B" ["C"], sample "C" ["A", "B"]])).TellsCycle
          0 := by
  have hreordered : List.Forall₂ Document.Reordered threeAround
      [sample "A" ["B", "X"], sample "B" ["C"], sample "C" ["A", "B"]] :=
    .cons ⟨rfl, .swap _ _ _⟩ (.cons ⟨rfl, .refl _⟩ (.cons ⟨rfl, .swap _ _ _⟩ .nil))
  have hshallow : ∀ doc ∈ threeAround[0]?, Shallow threeAround doc.id :=
    fun doc _ => shallow_of_length_le (by decide) doc.id
  have htells : (validateCollection .canonical (.ofList threeAround)).TellsCycle 0 :=
    tellsCycle_iff.2 ⟨sample "A" ["X", "B"], rfl, by decide, by decide⟩
  have hsame := (tellsCycle_of_reordered .canonical _ _ hreordered 0).2 hshallow
  exact ⟨hreordered, hshallow, hsame.1 htells⟩

/-! ## A detour that is too long -/

/-- Where each id has only the next as its target, a search goes along them to the last that there
is room for, which it visits and does not enter. -/
theorem search_of_single {id : String} {ids path visited : List String}
    (hsingle : (id :: ids).IsChain fun a b => targets docs a = [b]) (hnodup : (id :: ids).Nodup)
    (hpath : ∀ met ∈ id :: ids, met ∉ path) (hvisited : ∀ met ∈ id :: ids, met ∉ visited) :
    search (.ofList docs) ids.length path visited id = .ok ((id :: ids).reverse ++ visited) := by
  induction ids generalizing id path visited with
  | nil => exact search_zero (hpath id (.head _)) (hvisited id (.head _))
  | cons next rest ih =>
    obtain ⟨hnext, hsingle⟩ := List.isChain_cons_cons.1 hsingle
    obtain ⟨hid, hnodup⟩ := List.nodup_cons.1 hnodup
    have hfresh : ∀ l : List String, (∀ met ∈ id :: next :: rest, met ∉ l) →
        ∀ met ∈ next :: rest, met ∉ id :: l := by
      intro l hl met hmet hmem
      rcases List.mem_cons.1 hmem with rfl | hmem
      · exact hid hmet
      · exact hl met (.tail _ hmet) hmem
    rw [List.length_cons, search_succ (hpath id (.head _)) (hvisited id (.head _)), hnext,
      List.foldlM_cons, ih hsingle hnodup (hfresh path hpath) (hfresh visited hvisited)]
    simp [bind, Except.bind, pure, Except.pure]

/-- The id of a stop on the road. -/
def stop (n : Nat) : String := "MSN-" ++ n.repr

theorem stop_inj {m n : Nat} : stop m = stop n ↔ m = n := by
  refine ⟨fun h => ?_, congrArg stop⟩
  rw [stop, stop, String.append_right_inj, Nat.repr_eq_ofList_toDigits,
    Nat.repr_eq_ofList_toDigits, String.ofList_inj] at h
  rw [← Nat.ofDigitChars_ten_toDigits (n := m), h, Nat.ofDigitChars_ten_toDigits]

/-- Stops one after another. -/
def stops (start count : Nat) : List String := (List.range' start count).map stop

theorem mem_stops {start count n : Nat} : stop n ∈ stops start count ↔
    start ≤ n ∧ n < start + count := by
  simp only [stops, List.mem_map, List.mem_range'_1, stop_inj, exists_eq_right]

theorem nodup_stops (start count : Nat) : (stops start count).Nodup :=
  (List.nodup_range' 1).map fun _ _ => stop_inj.1

/-- A start with dependencies of its own, and a road of as many stops as the depth limit, each of
which leads to the next. The last leads to itself. -/
def detour (first : List String) : List Document :=
  sample (stop 0) first ::
    (List.range' 1 depthLimit).map fun n => sample (stop n) [stop (min (n + 1) depthLimit)]

/-- The start leads where it is told to. -/
theorem targets_detour_start (first : List String) : targets (detour first) (stop 0) = first := by
  rw [detour, targets_cons]
  exact if_pos rfl

/-- A stop leads to the next, the last one to itself. -/
theorem targets_detour (first : List String) {n : Nat} (hpos : 0 < n) (hle : n ≤ depthLimit) :
    targets (detour first) (stop n) = [stop (min (n + 1) depthLimit)] := by
  have hids : (detour first).map (·.id) = stops 0 (depthLimit + 1) := by
    rw [detour, stops, List.range'_succ, List.map_cons, List.map_cons, List.map_map]
    rfl
  have hmem : sample (stop n) [stop (min (n + 1) depthLimit)] ∈ detour first :=
    .tail _ (List.mem_map.2 ⟨n, List.mem_range'_1.2 (by omega), rfl⟩)
  exact targets_of_document? (document?_of_nodup (hids ▸ nodup_stops _ _) hmem)

/-- From the start the search goes on to what the start leads to. -/
theorem search_detour (first : List String) :
    search (.ofList (detour first)) depthLimit [] [] (stop 0) =
      first.foldlM (search (.ofList (detour first)) (depthLimit - 1) [stop 0]) [stop 0] := by
  have h : search (.ofList (detour first)) (depthLimit - 1 + 1) [] [] (stop 0) = _ :=
    search_succ List.not_mem_nil List.not_mem_nil
  rwa [targets_detour_start] at h

/-- The last stop is not the start. -/
theorem last_not_mem : stop depthLimit ∉ [stop 0] := by
  rw [List.mem_singleton, stop_inj]
  decide

/-- Along the road the search comes to the last stop, and does not enter it. -/
theorem search_road (first : List String) :
    ∃ visited, search (.ofList (detour first)) (depthLimit - 1) [stop 0] [stop 0] (stop 1) =
      .ok visited ∧ stop depthLimit ∈ visited := by
  have hroad : stop 1 :: stops 2 (depthLimit - 1) = stops 1 depthLimit := rfl
  have hsingle : (stop 1 :: stops 2 (depthLimit - 1)).IsChain
      fun a b => targets (detour first) a = [b] := by
    rw [hroad, stops, List.isChain_map]
    refine List.IsChain.imp_of_mem_imp (fun m n hm hn hnext => ?_)
      (List.isChain_range' 1 depthLimit 1)
    rw [List.mem_range'_1] at hm hn
    rw [targets_detour first (by omega) (by omega), Nat.min_eq_left (by omega), hnext]
  have hfresh : ∀ met ∈ stop 1 :: stops 2 (depthLimit - 1), met ∉ [stop 0] := by
    rw [hroad]
    intro met hmet hstart
    rw [List.mem_singleton.1 hstart, mem_stops] at hmet
    omega
  have hsearch := search_of_single hsingle (hroad ▸ nodup_stops 1 depthLimit) hfresh hfresh
  rw [stops, List.length_map, List.length_range'] at hsearch
  refine ⟨_, hsearch, List.mem_append_left _ (List.mem_reverse.2 ?_)⟩
  exact hroad ▸ mem_stops.2 (by decide)

/-- If the road is listed first, no cycle is found: the last stop is visited where it cannot be
entered, and passed by where it could. -/
theorem findCycle?_road_first :
    findCycle? (.ofList (detour [stop 1, stop depthLimit])) (stop 0) = none := by
  obtain ⟨visited, hroad, hlast⟩ := search_road [stop 1, stop depthLimit]
  have hpass : search (.ofList (detour [stop 1, stop depthLimit])) (depthLimit - 1)
      [stop 0] visited
      (stop depthLimit) = .ok visited := search_of_mem_visited last_not_mem hlast
  rw [findCycle?, search_detour, List.foldlM_cons, hroad]
  simp [bind, Except.bind, pure, Except.pure, hpass]

/-- If the last stop is listed first, its cycle is found. -/
theorem findCycle?_stop_first :
    (findCycle? (.ofList (detour [stop depthLimit, stop 1])) (stop 0)).isSome := by
  have hstop : search (.ofList (detour [stop depthLimit, stop 1])) (depthLimit - 1)
      [stop 0] [stop 0]
      (stop depthLimit) = .error (cycleOn [stop depthLimit, stop 0] (stop depthLimit)) := by
    have henter : search (.ofList (detour [stop depthLimit, stop 1])) (depthLimit - 2 + 1)
        [stop 0] [stop 0]
        (stop depthLimit) = _ := search_succ last_not_mem last_not_mem
    rw [targets_detour _ (by decide) (Nat.le_refl _), Nat.min_eq_right (Nat.le_succ _),
      List.foldlM_cons, search_of_mem_path (.head _)] at henter
    exact henter
  rw [findCycle?, search_detour, List.foldlM_cons, hstop]
  rfl

/-- **A detour longer than the depth limit hides a cycle.** The start leads to the last stop
directly and along the road. The report tells of the cycle at the start if the start lists the last
stop first, and does not tell of it if the start lists the road first. -/
theorem tellsCycle_detour :
    List.Forall₂ Document.Reordered (detour [stop depthLimit, stop 1])
        (detour [stop 1, stop depthLimit]) ∧
      (validateCollection .canonical (.ofList (detour [stop depthLimit, stop 1]))).TellsCycle 0 ∧
      ¬ (validateCollection .canonical (.ofList (detour [stop 1, stop depthLimit]))).TellsCycle
        0 := by
  refine ⟨.cons ⟨rfl, .swap _ _ _⟩ (List.forall₂_same.2 fun _ _ => ⟨rfl, .refl _⟩), ?_,
    fun htells => ?_⟩
  · exact tellsCycle_iff.2 ⟨sample (stop 0) [stop depthLimit, stop 1], rfl, List.cons_ne_nil _ _,
      findCycle?_stop_first⟩
  · obtain ⟨doc, hdoc, -, hsome⟩ := tellsCycle_iff.1 htells
    obtain rfl : sample (stop 0) [stop 1, stop depthLimit] = doc := by simpa [detour] using hdoc
    exact Option.isSome_iff_ne_none.1 hsome findCycle?_road_first

end Dossier.Validation

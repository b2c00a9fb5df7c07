import Dossier.Proofs.Decimal.Quotient
import Dossier.Proofs.Graph.Cluster
import Dossier.Proofs.Graph.Position
import Dossier.Proofs.Taxonomy.Settings

/-!
# How complete clusters are

The clusters of documents share the documents out among them by their domains. A cluster counts the
types on the checklist of its domain that its documents have. Since no checklist lists a type
twice, whether it is the canonical one or comes from settings, the count is at most the length of
the checklist, and as long as it exactly if no type is missing (`isClustering_clustersOf`).
-/

namespace Dossier

/-- The taxonomies that there are: the canonical one, and those that settings describe. -/
inductive Taxonomy.IsConfigured : Taxonomy → Prop
  | canonical : IsConfigured canonical
  | ofSettings {s : TaxonomySettings} {t : Taxonomy} (h : Taxonomy.ofSettings s = .ok t) :
      IsConfigured t

/-- A taxonomy lists nothing twice, wherever it comes from. -/
theorem Taxonomy.IsConfigured.isSound {t : Taxonomy} (h : t.IsConfigured) : t.IsSound := by
  cases h with
  | canonical => exact isSound_canonical
  | @ofSettings s _ h =>
    have hyields := yields_ofSettings s
    rw [h] at hyields
    exact hyields.1.isSound hyields.2

/-- A share of something is one if it is all. -/
theorem Share.ratio_eq_one_iff {s : Share} (hpos : 0 < s.whole) : s.ratio = 1 ↔
    s.part = s.whole := by
  have hne : (s.whole : ℚ) ≠ 0 := by exact_mod_cast hpos.ne'
  rw [ratio, div_eq_one_iff_eq hne]
  exact Nat.cast_inj

namespace Graph

variable {taxonomy : Taxonomy} {docs : List Document} {d : Domain} {checklist : List String}

/-! ## Sharing out -/

/-- What is shared out by keys is all there, if every key is one of those listed and none is listed
twice. -/
theorem flatMap_filter_perm {α β : Type} [BEq β] [LawfulBEq β] (key : α → β) {keys : List β}
    (hnodup : keys.Nodup) :
    ∀ {l : List α}, (∀ a ∈ l, key a ∈ keys) →
    (keys.flatMap fun k => l.filter (key · == k)).Perm l := by
  induction keys with
  | nil =>
    intro l hkeys
    rw [List.eq_nil_iff_forall_not_mem.2 fun a ha => List.not_mem_nil (hkeys a ha)]
    exact .refl _
  | cons k rest ih =>
    intro l hkeys
    obtain ⟨hk, hrest⟩ := List.nodup_cons.1 hnodup
    -- The other keys take nothing from the elements of the first.
    have hothers : (rest.flatMap fun k' => l.filter (key · == k')) =
        rest.flatMap fun k' => (l.filter fun a => !(key a == k)).filter (key · == k') := by
      refine List.flatMap_congr fun k' hk' => ?_
      rw [List.filter_filter]
      refine List.filter_congr fun a _ => ?_
      by_cases ha : key a = k'
      · have hne : key a ≠ k := fun h => hk (h ▸ ha ▸ hk')
        simp [ha, ha ▸ hne]
      · simp [ha]
    rw [List.flatMap_cons, hothers]
    have hkeys' : ∀ a ∈ l.filter fun a => !(key a == k), key a ∈ rest := by
      intro a ha
      obtain ⟨hmem, hne⟩ := List.mem_filter.1 ha
      exact (List.mem_cons.1 (hkeys a hmem)).resolve_left (by simpa using hne)
    exact ((ih hrest hkeys').append_left _).trans (List.filter_append_perm _ _)

/-! ## Counting types -/

/-- A document of a domain has a type. -/
def HasType (taxonomy : Taxonomy) (docs : List Document) (d : Domain) (code : String) : Prop :=
  ∃ doc ∈ docs, taxonomy.domainOf doc = d ∧ doc.type = code

instance (taxonomy : Taxonomy) (docs : List Document) (d : Domain) :
    DecidablePred (HasType taxonomy docs d) :=
  fun _ => inferInstanceAs (Decidable (∃ doc ∈ docs, _))

/-- No type on the checklist of a domain is missing. -/
def IsComplete (taxonomy : Taxonomy) (docs : List Document) (d : Domain) : Prop :=
  ∀ code ∈ taxonomy.checklist d, HasType taxonomy docs d code

/-- How much of the checklist of a domain its documents cover. -/
structure IsCompleteness (taxonomy : Taxonomy) (docs : List Document) (d : Domain) (s : Share) :
    Prop where
  part : s.part = (taxonomy.checklist d).countP (HasType taxonomy docs d ·)
  whole : s.whole = (taxonomy.checklist d).length
  le : s.part ≤ s.whole
  eq_iff : s.part = s.whole ↔ IsComplete taxonomy docs d
  ratio_mem : 0 ≤ s.ratio ∧ s.ratio ≤ 1
  ratio_eq_one_iff : taxonomy.checklist d ≠ [] → (s.ratio = 1 ↔ IsComplete taxonomy docs d)
  /-- As far as doubles count, the double that is shown says the same. -/
  toFloat : taxonomy.checklist d ≠ [] → (taxonomy.checklist d).length < 2 ^ 53 →
    (0.0 ≤ s.toFloat ∧ s.toFloat ≤ 1.0) ∧ (s.toFloat = 1.0 ↔ IsComplete taxonomy docs d)

/-- The types that are present are as many as the entries of the checklist that are types of
documents. -/
theorem length_typesPresent (hnodup : checklist.Nodup) (docs : List Document) :
    (typesPresent checklist docs).length = checklist.countP fun code =>
      docs.any (·.type == code) := by
  rw [List.countP_eq_length_filter]
  refine ((List.perm_ext_iff_of_nodup (nodup_eraseDups _) (hnodup.filter _)).2 fun code =>
    ?_).length_eq
  rw [List.mem_eraseDups, List.mem_filter, List.mem_filter, List.contains_iff_mem, List.mem_map,
    List.any_eq_true, and_comm]
  simp only [beq_iff_eq]

/-- A share that counts the types on a checklist is at most all of them, and all only if none is
missing. -/
theorem isCompleteness_of_count {s : Share}
    (hpart : s.part = (taxonomy.checklist d).countP (HasType taxonomy docs d ·))
    (hwhole : s.whole = (taxonomy.checklist d).length) : IsCompleteness taxonomy docs d s := by
  have hle : s.part ≤ s.whole := by
    rw [hpart, hwhole]
    exact List.countP_le_length
  have hiff : s.part = s.whole ↔ IsComplete taxonomy docs d := by
    rw [hpart, hwhole, List.countP_eq_length, IsComplete]
    simp only [decide_eq_true_eq]
  have hpos : taxonomy.checklist d ≠ [] → 0 < s.whole :=
    fun hne => hwhole ▸ List.length_pos_iff.2 hne
  constructor
  case part => exact hpart
  case whole => exact hwhole
  case le => exact hle
  case eq_iff => exact hiff
  case ratio_mem => exact Share.ratio_mem hle
  case ratio_eq_one_iff => exact fun hne => (Share.ratio_eq_one_iff (hpos hne)).trans hiff
  case toFloat =>
    intro hne hsmall
    obtain ⟨hmem, hone⟩ := Share.toFloat_mem hle (hpos hne) (hwhole ▸ hsmall)
    exact ⟨hmem, hone.trans hiff⟩

/-- The completeness of a cluster counts the types on a checklist, if this lists none twice. -/
theorem isCompleteness_of (hnodup : (taxonomy.checklist d).Nodup) (docs : List Document) :
    IsCompleteness taxonomy docs d
      (Cluster.of taxonomy d (membersOf taxonomy docs d)).completeness := by
  refine isCompleteness_of_count
    ((length_typesPresent hnodup _).trans (List.countP_congr fun code _ => ?_)) rfl
  rw [decide_eq_true_eq]
  simp only [List.any_eq_true, membersOf, List.mem_filter, beq_iff_eq, HasType, and_assoc]

/-! ## Clusters -/

/-- Clusters share documents out by their domains and tell how complete they are. -/
structure IsClustering (taxonomy : Taxonomy) (docs : List Document) (clusters : List Cluster) :
    Prop where
  domains : FirstOccurrences (docs.map taxonomy.domainOf) (clusters.map (·.domain))
  ids : ∀ c ∈ clusters, c.ids = (docs.filter (taxonomy.domainOf · == c.domain)).map (·.id)
  perm : (clusters.flatMap (·.ids)).Perm (docs.map (·.id))
  completeness : ∀ c ∈ clusters, IsCompleteness taxonomy docs c.domain c.completeness

/-- **Clusters share documents out, and count no type twice.** Each document is in the cluster of
its domain and in no other, and the types that a cluster counts are at most those on its
checklist. -/
theorem isClustering_clustersOf (ht : taxonomy.IsConfigured) (docs : List Document) :
    IsClustering taxonomy docs (clustersOf taxonomy docs) := by
  have hmembers : ∀ d, (Cluster.of taxonomy d (membersOf taxonomy docs d)).ids =
      (docs.filter (taxonomy.domainOf · == d)).map (·.id) := fun _ => rfl
  constructor
  case domains =>
    rw [map_domain_clustersOf]
    exact firstOccurrences_eraseDups _
  case ids =>
    intro c hc
    obtain ⟨d, -, rfl⟩ := mem_clustersOf.1 hc
    exact hmembers d
  case perm =>
    have hpresent : ∀ doc ∈ docs, taxonomy.domainOf doc ∈ domainsPresent taxonomy docs :=
      fun doc hdoc => mem_domainsPresent.2 ⟨doc, hdoc, rfl⟩
    have hperm := (flatMap_filter_perm _ (nodup_domainsPresent taxonomy docs) hpresent).map (·.id)
    rwa [clustersOf_eq, List.flatMap_map, funext hmembers, ← List.map_flatMap]
  case completeness =>
    intro c hc
    obtain ⟨d, -, rfl⟩ := mem_clustersOf.1 hc
    exact isCompleteness_of (ht.isSound.nodup_checklist d) docs

/-- Settings that list a type twice. -/
def repeating : TaxonomySettings := { domainTypes := some [("risk", ["RSK", "MIT", "RSK"])] }

/-- Two documents with one id and all types that the settings list, and one of a domain without a
checklist. -/
def sharing : List Document :=
  [{ Dependency.sample "A" [] with type := "MIT" },
    { Dependency.sample "B" [] with type := "MSN" },
    { Dependency.sample "A" [] with type := "RSK" }]

/-- A cluster is complete although its checklist was given with a repetition. -/
theorem isClustering_repeating : ∃ t, Taxonomy.ofSettings repeating = .ok t ∧
    (clustersOf t sharing).map (fun c => (c.domain, c.ids, c.completeness)) =
      [(.risk, ["A", "A"], ⟨2, 2⟩), (.strategic, ["B"], ⟨0, 0⟩)] ∧
    IsClustering t sharing (clustersOf t sharing) :=
  ⟨_, rfl, by decide, isClustering_clustersOf (.ofSettings (s := repeating) rfl) sharing⟩

end Graph

end Dossier

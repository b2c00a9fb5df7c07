import Dossier.Graph.Basic
import Dossier.Proofs.Dependency.Dependents

/-!
# Laws of clusters

One pass over documents opens one group for each domain that occurs and puts every document into
the group of its domain (`isGrouped_ofList`). So the domains that occur have one cluster each
(`cluster?_ofList`), which holds the documents of the domain.
-/

namespace Dossier.Graph

variable {taxonomy : Taxonomy} {docs : List Document} {d : Domain} {c : Cluster}

/-- The domains of documents, in the order in which they appear. -/
def domainsPresent (taxonomy : Taxonomy) (docs : List Document) : List Domain :=
  (docs.map taxonomy.domainOf).eraseDups

/-- The documents of a domain. -/
def membersOf (taxonomy : Taxonomy) (docs : List Document) (d : Domain) : List Document :=
  docs.filter (taxonomy.domainOf · == d)

/-- The cluster of a domain. -/
def cluster? (g : Graph) (d : Domain) : Option Cluster := g.clusters.find? (·.domain == d)

/-- A domain is present if it is that of a document. -/
theorem mem_domainsPresent :
    d ∈ domainsPresent taxonomy docs ↔ ∃ doc ∈ docs, taxonomy.domainOf doc = d := by
  rw [domainsPresent, List.mem_eraseDups, List.mem_map]

/-- No domain is listed twice. -/
theorem nodup_domainsPresent (taxonomy : Taxonomy) (docs : List Document) :
    (domainsPresent taxonomy docs).Nodup :=
  nodup_eraseDups _

/-- A domain that is not present has no documents. -/
theorem membersOf_eq_nil (hd : d ∉ domainsPresent taxonomy docs) :
    membersOf taxonomy docs d = [] := by
  refine List.filter_eq_nil_iff.2 fun doc hdoc hdomain => ?_
  exact hd (mem_domainsPresent.2 ⟨doc, hdoc, eq_of_beq hdomain⟩)

/-! ## Grouping -/

/-- A document that is added to a domain comes after those of the domain, and the other domains
keep theirs. -/
theorem Groups.lookup_add (d d' : Domain) (doc : Document)
    (members : List (Domain × List Document)) :
    (add d doc members).lookup d' =
      if d' = d then some ((members.lookup d).getD [] ++ [doc]) else members.lookup d' := by
  induction members with
  | nil =>
    by_cases hd : d' = d
    · simp [add, hd]
    · simp [add, hd, List.lookup_cons, beq_eq_false_iff_ne.2 hd]
  | cons group rest ih =>
    obtain ⟨first, docs⟩ := group
    by_cases hfirst : first = d
    · subst hfirst
      by_cases hd : d' = first
      · simp [add, hd]
      · simp [add, hd, List.lookup_cons, beq_eq_false_iff_ne.2 hd]
    · have hother : (d == first) = false := beq_eq_false_iff_ne.2 (Ne.symm hfirst)
      by_cases hd : d' = first
      · simp [add, hd, hfirst]
      · simp [add, hfirst, List.lookup_cons, beq_eq_false_iff_ne.2 hd, hother, ih]

/-- Groups hold the given documents: the domains that occur among them, and the documents of
each. -/
structure Groups.IsGrouped (taxonomy : Taxonomy) (docs : List Document) (g : Groups) : Prop where
  order : g.order = domainsPresent taxonomy docs
  members : ∀ d, g.members.lookup d =
    if d ∈ domainsPresent taxonomy docs then some (membersOf taxonomy docs d) else none

/-- The domain of a document more is present after those that were. -/
theorem domainsPresent_append (taxonomy : Taxonomy) (docs : List Document) (doc : Document) :
    domainsPresent taxonomy (docs ++ [doc]) =
      if taxonomy.domainOf doc ∈ domainsPresent taxonomy docs then domainsPresent taxonomy docs
      else domainsPresent taxonomy docs ++ [taxonomy.domainOf doc] := by
  simp only [domainsPresent, List.map_append, List.map_cons, List.map_nil, List.eraseDups_append,
    List.mem_eraseDups]
  by_cases h : taxonomy.domainOf doc ∈ docs.map taxonomy.domainOf
  · simp only [List.removeAll, List.elem_eq_mem, h, decide_true, Bool.not_true,
      List.filter_cons_of_neg, if_true, Bool.false_eq_true, not_false_eq_true, List.filter_nil,
      List.eraseDups_nil, List.append_nil]
  · simp only [List.removeAll, List.elem_eq_mem, h, decide_false, Bool.not_false,
      List.filter_cons_of_pos, if_false, List.filter_nil, List.eraseDups_cons, List.eraseDups_nil]

/-- A domain has a document more if it is the document's. -/
theorem membersOf_append (taxonomy : Taxonomy) (docs : List Document) (doc : Document)
    (d : Domain) :
    membersOf taxonomy (docs ++ [doc]) d =
      membersOf taxonomy docs d ++ if taxonomy.domainOf doc = d then [doc] else [] := by
  rw [membersOf, List.filter_append, membersOf]
  by_cases hd : taxonomy.domainOf doc = d <;> simp [hd]

/-- The group of a domain is empty if there is none. -/
theorem Groups.IsGrouped.getD_lookup {g : Groups} (h : g.IsGrouped taxonomy docs) (d : Domain) :
    (g.members.lookup d).getD [] = membersOf taxonomy docs d := by
  rw [h.members]
  split
  case isTrue => rfl
  case isFalse hd => exact (membersOf_eq_nil hd).symm

/-- Putting a document into its group keeps what groups hold. -/
theorem Groups.IsGrouped.enter {g : Groups} (h : g.IsGrouped taxonomy docs) (doc : Document) :
    (g.enter taxonomy doc).IsGrouped taxonomy (docs ++ [doc]) := by
  have hpresent : (g.members.lookup (taxonomy.domainOf doc)).isSome = true ↔
      taxonomy.domainOf doc ∈ domainsPresent taxonomy docs := by
    rw [h.members]
    split <;> simp_all
  constructor
  case order =>
    rw [domainsPresent_append, ← h.order]
    simp only [Groups.enter, hpresent, h.order]
  case members =>
    intro d
    have hmem : d ∈ domainsPresent taxonomy (docs ++ [doc]) ↔
        d ∈ domainsPresent taxonomy docs ∨ d = taxonomy.domainOf doc := by
      rw [domainsPresent_append]
      split
      case isTrue h => exact ⟨.inl, (·.elim id (· ▸ h))⟩
      case isFalse => rw [List.mem_append, List.mem_singleton]
    rw [Groups.enter, lookup_add, h.getD_lookup, h.members, membersOf_append]
    by_cases hd : d = taxonomy.domainOf doc
    · rw [if_pos hd, if_pos (hmem.2 (.inr hd)), if_pos hd.symm, hd]
    · simp only [hmem, hd, or_false, if_false, if_neg (Ne.symm hd), List.append_nil]

/-- **Groups hold all documents.** -/
theorem Groups.isGrouped_ofList (taxonomy : Taxonomy) (docs : List Document) :
    (Groups.ofList taxonomy docs).IsGrouped taxonomy docs := by
  induction docs using List.reverseRecOn with
  | nil => exact ⟨rfl, fun _ => rfl⟩
  | append_singleton docs doc ih =>
    rw [ofList, List.foldl_append]
    exact ih.enter doc

/-- The clusters are those of the domains present, in their order. -/
theorem clustersOf_eq (taxonomy : Taxonomy) (docs : List Document) : clustersOf taxonomy docs =
    (domainsPresent taxonomy docs).map fun d => .of taxonomy d (membersOf taxonomy docs d) := by
  have hgrouped := Groups.isGrouped_ofList taxonomy docs
  rw [clustersOf, hgrouped.order, ← List.filterMap_eq_map]
  refine List.filterMap_congr fun d hd => ?_
  rw [hgrouped.members, if_pos hd]
  rfl

/-- The clusters are those of the domains present. -/
theorem mem_clustersOf : c ∈ clustersOf taxonomy docs ↔
    ∃ d ∈ domainsPresent taxonomy docs, Cluster.of taxonomy d (membersOf taxonomy docs d) = c := by
  rw [clustersOf_eq, List.mem_map]

/-- Each domain present has one cluster. -/
theorem map_domain_clustersOf (taxonomy : Taxonomy) (docs : List Document) :
    (clustersOf taxonomy docs).map (·.domain) = domainsPresent taxonomy docs := by
  rw [clustersOf_eq, List.map_map]
  exact List.map_id' _

/-- The cluster of a domain is that of its documents, if it has any. -/
theorem cluster?_ofList (taxonomy : Taxonomy) (docs : List Document) (d : Domain) :
    (ofList taxonomy docs).cluster? d =
      if d ∈ domainsPresent taxonomy docs then some (.of taxonomy d (membersOf taxonomy docs d))
      else none := by
  show (clustersOf taxonomy docs).find? (·.domain == d) = _
  cases hfind : (clustersOf taxonomy docs).find? (·.domain == d) with
  | none =>
    refine (if_neg fun hd => ?_).symm
    exact List.find?_eq_none.1 hfind _ (mem_clustersOf.2 ⟨d, hd, rfl⟩) (beq_self_eq_true d)
  | some c =>
    obtain ⟨met, hmet, rfl⟩ := mem_clustersOf.1 (List.mem_of_find?_eq_some hfind)
    have hdomain := List.find?_some hfind
    obtain rfl : met = d := eq_of_beq hdomain
    exact (if_pos hmet).symm

/-- A domain has no cluster if no document is in it. -/
theorem isNone_cluster?_ofList (taxonomy : Taxonomy) (docs : List Document) (d : Domain) :
    ((ofList taxonomy docs).cluster? d).isNone = !(docs.map taxonomy.domainOf).contains d := by
  have hpresent : d ∈ domainsPresent taxonomy docs ↔
      (docs.map taxonomy.domainOf).contains d = true := by
    rw [domainsPresent, List.mem_eraseDups, List.contains_iff_mem]
  rw [cluster?_ofList]
  simp only [hpresent]
  cases (docs.map taxonomy.domainOf).contains d <;> rfl

/-- The cluster of a domain is as large as there are documents in the domain. -/
theorem size_cluster?_ofList (taxonomy : Taxonomy) (docs : List Document) (d : Domain) :
    ((ofList taxonomy docs).cluster? d).elim 0 (·.ids.length) =
      (docs.map taxonomy.domainOf).count d := by
  have hmembers : (docs.map taxonomy.domainOf).count d = (membersOf taxonomy docs d).length := by
    rw [List.count, List.countP_map, List.countP_eq_length_filter, membersOf]
    rfl
  rw [cluster?_ofList, hmembers]
  split
  case isTrue => exact List.length_map _
  case isFalse hd => rw [membersOf_eq_nil hd]; rfl

end Dossier.Graph

import Dossier.Proofs.Graph.Cluster
import Dossier.Proofs.Graph.Edge
import Dossier.Proofs.Query.Result
import Dossier.Proofs.Query.Statistics
import Dossier.Query.Recommendation

/-!
# Statistics, queries, the graph and recommendations

Four views count the same documents, each in its own way: the statistics count what occurs, a query
filters and counts what is left, the graph groups documents by domain and lists their references,
and the recommendations look for what is not there. They agree on every collection, whatever ids
repeat and whatever taxonomy it is read with (`viewsAgree`).
-/

namespace Dossier

open Query

/-- Statistics, answers to queries, a graph and recommendations that agree with one another, under
a taxonomy. The options asked with set no other filter, which leaves them to sort, page and show
texts (`Options.filters_unset`). -/
structure ViewsAgree (taxonomy : Taxonomy) (s : Statistics) (answer : Options → Result) (g : Graph)
    (lacks : Recommendations) : Prop where
  /-- The count of a type is the number of matches when it is the only thing asked for. -/
  byType : ∀ (code : String) (o : Options), o.filters taxonomy = [] →
    (s.byType.lookup code).getD 0 = (answer { o with types := [code] }).total
  byDomain : ∀ (d : Domain) (o : Options), o.filters taxonomy = [] →
    (s.byDomain.lookup d).getD 0 = (answer { o with domains := [d] }).total
  byStatus : ∀ (status : Status) (o : Options), o.filters taxonomy = [] →
    (s.byStatus.lookup status).getD 0 = (answer { o with statuses := [status] }).total
  /-- The count of a domain is the size of its cluster. -/
  clusters : ∀ d, (s.byDomain.lookup d).getD 0 = (g.cluster? d).elim 0 (·.ids.length)
  dependencies : s.dependencies = (g.edges.filter (·.relationship == .dependsOn)).length
  enablements : s.enablements = (g.edges.filter (·.relationship == .enables)).length
  conflicts : s.conflicts = (g.edges.filter (·.relationship == .conflictsWith)).length
  /-- The known types that are missing are those without a count. -/
  missingTypes : lacks.missingTypes =
    taxonomy.knownTypes.filter fun code => (s.byType.lookup code).isNone
  /-- The domains to begin with are those of the taxonomy without a cluster. -/
  opportunities : lacks.opportunities.map (·.domain) =
    taxonomy.domains.filter fun d => (g.cluster? d).isNone

namespace Query

/-! ## Counts of the statistics -/

/-- A type has an entry if a document has it, which counts these documents. -/
theorem lookup_byType (r : Registry) (today : Date) (code : String) :
    ((statistics r today).byType.lookup code) =
      if code ∈ r.documents.map (·.type) then some ((r.documents.map (·.type)).count code)
      else none := by
  show (countEach (Taxonomy.inOrder (r.documents.map (·.type))) _).lookup code = _
  rw [lookup_countEach]
  simp only [Taxonomy.mem_inOrder, and_self]

/-- The count of a domain is the number of documents in it. -/
theorem getD_lookup_byDomain (r : Registry) (today : Date) (d : Domain) :
    ((statistics r today).byDomain.lookup d).getD 0 = r.domains.count d :=
  getD_lookup_countEach fun _ => by cases d <;> decide

/-- The count of a status is the number of documents that have it. -/
theorem getD_lookup_byStatus (r : Registry) (today : Date) (status : Status) :
    ((statistics r today).byStatus.lookup status).getD 0 =
      (r.documents.map (·.status)).count status :=
  getD_lookup_countEach fun _ => by cases status <;> decide

/-! ## What recommendations miss -/

/-- The types that are missing are the known ones without an entry in the statistics. -/
theorem missingTypes_recommend (r : Registry) (today : Date) : (recommend r).missingTypes =
    r.taxonomy.knownTypes.filter fun code => ((statistics r today).byType.lookup code).isNone := by
  refine List.filter_congr fun code _ => ?_
  rw [lookup_byType, Bool.eq_iff_iff]
  split <;> simp_all

/-- The domains to begin with are those of the taxonomy without a cluster. -/
theorem map_domain_opportunities_recommend (r : Registry) :
    (recommend r).opportunities.map (·.domain) =
    r.taxonomy.domains.filter fun d =>
      ((Graph.ofList r.taxonomy r.documents).cluster? d).isNone := by
  show ((r.taxonomy.domains.filter _).map _).map _ = _
  rw [List.map_map]
  simp only [Graph.isNone_cluster?_ofList]
  exact List.map_id' _

end Query

/-! ## All views -/

/-- **All views count alike.** On every collection and under every taxonomy, statistics, answers to
queries, the graph and recommendations agree with one another, on any day and however long each
query takes. -/
theorem viewsAgree (r : Registry) (today : Date) (milliseconds : Options → Nat) :
    ViewsAgree r.taxonomy (statistics r today) (fun o => run r o (milliseconds o))
      (.ofList r.taxonomy r.documents) (recommend r) := by
  have hedges (relationship : Graph.Relationship) :
      total (r.documents.map fun doc => (relationship.targets doc).length) =
        ((Graph.edgesOf r.documents).filter (·.relationship == relationship)).length := by
    rw [total_eq_sum, Graph.length_filter_relationship]
  constructor
  case byType =>
    intro code o ho
    rw [total_run_of_filters_eq (Options.filters_type ho code), lookup_byType]
    split
    case isTrue => rfl
    case isFalse hnot => exact (List.count_eq_zero.2 hnot).symm
  case byDomain =>
    intro d o ho
    rw [getD_lookup_byDomain]
    exact (total_run_of_filters_eq (Options.filters_domain ho d) _).symm
  case byStatus =>
    intro status o ho
    rw [getD_lookup_byStatus]
    exact (total_run_of_filters_eq (Options.filters_status ho status) _).symm
  case clusters =>
    intro d
    rw [getD_lookup_byDomain, Graph.size_cluster?_ofList, Registry.domains]
  case dependencies => exact hedges .dependsOn
  case enablements => exact hedges .enables
  case conflicts => exact hedges .conflictsWith
  case missingTypes => exact missingTypes_recommend r today
  case opportunities => exact map_domain_opportunities_recommend r

end Dossier

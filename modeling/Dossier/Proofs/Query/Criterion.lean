import Mathlib.Data.List.Infix
import Dossier.Proofs.Query.Result

/-!
# Queries as conjunctions of criteria

A query narrows a collection by nineteen criteria. Each has a rule of its own, which says what a
document must be like, and no two of them interfere: the documents found by all that are set are
those that each finds by itself (`conjunction_run`).
-/

namespace Dossier.Query

/-- What a query may narrow its matches by, in the order in which it does. -/
inductive Criterion where
  | types
  | domains
  | statuses
  | priorities
  | dependsOn
  | enables
  | relatedTo
  | conflictsWith
  | createdAfter
  | createdBefore
  | updatedAfter
  | updatedBefore
  | owner
  | stakeholders
  | reviewers
  | hasSuccessCriteria
  | hasRisks
  | hasMetrics
  | textSearch
  deriving DecidableEq, Repr

namespace Criterion

/-- All criteria, in their order. -/
def all : List Criterion :=
  [.types, .domains, .statuses, .priorities, .dependsOn, .enables, .relatedTo, .conflictsWith,
    .createdAfter, .createdBefore, .updatedAfter, .updatedBefore, .owner, .stakeholders,
    .reviewers, .hasSuccessCriteria, .hasRisks, .hasMetrics, .textSearch]

/-- The name under which a criterion is listed. -/
def name : Criterion → String
  | types => "types"
  | domains => "domains"
  | statuses => "statuses"
  | priorities => "priorities"
  | dependsOn => "depends on"
  | enables => "enables"
  | relatedTo => "related to"
  | conflictsWith => "conflicts with"
  | createdAfter => "created after"
  | createdBefore => "created before"
  | updatedAfter => "updated after"
  | updatedBefore => "updated before"
  | owner => "owner"
  | stakeholders => "stakeholders"
  | reviewers => "reviewers"
  | hasSuccessCriteria => "has success criteria"
  | hasRisks => "has risks"
  | hasMetrics => "has metrics"
  | textSearch => "text search"

/-- The texts of a document in a field that a text is searched in. -/
def textsIn (doc : Document) : SearchField → List String
  | .title => [doc.title]
  | .content => [doc.content]
  | .id => [doc.id]
  | .tags => doc.tags

/-- The rule of a criterion: what a document must be like where options ask for it. A text that is
searched for must be a part of a text of the document, both in lower case. -/
def Holds (taxonomy : Taxonomy) (o : Options) (doc : Document) : Criterion → Prop
  | types => doc.type ∈ o.types
  | domains => taxonomy.domainOf doc ∈ o.domains
  | statuses => doc.status ∈ o.statuses
  | priorities => ∃ p ∈ doc.priority, p ∈ o.priorities
  | dependsOn => ∃ id ∈ doc.dependsOn, id ∈ o.dependsOn
  | enables => ∃ id ∈ doc.enables, id ∈ o.enables
  | relatedTo => ∃ id ∈ doc.related, id ∈ o.relatedTo
  | conflictsWith => ∃ id ∈ doc.conflictsWith, id ∈ o.conflictsWith
  | createdAfter => ∃ bound ∈ o.createdAfter, bound ≤ doc.created
  | createdBefore => ∃ bound ∈ o.createdBefore, doc.created ≤ bound
  | updatedAfter => ∃ bound ∈ o.updatedAfter, bound ≤ doc.updated
  | updatedBefore => ∃ bound ∈ o.updatedBefore, doc.updated ≤ bound
  | owner => o.owner = some doc.owner
  | stakeholders => ∃ name ∈ doc.stakeholders, name ∈ o.stakeholders
  | reviewers => ∃ name ∈ doc.reviewers, name ∈ o.reviewers
  | hasSuccessCriteria => o.hasSuccessCriteria = some doc.hasSuccessCriteria
  | hasRisks => o.hasRisks = some !doc.risks.isEmpty
  | hasMetrics => o.hasMetrics = some !doc.metrics.isEmpty
  | textSearch => ∃ term ∈ o.textSearch,
      ∃ field ∈ o.searchFields.getD [.title, .content, .id, .tags], ∃ text ∈ textsIn doc field,
        (Text.lower term).toList <:+: (Text.lower text).toList

instance (taxonomy : Taxonomy) (o : Options) (doc : Document) :
    DecidablePred (Holds taxonomy o doc) := fun k => by
  cases k <;> unfold Holds <;> infer_instance

/-- The value that is listed of a criterion. -/
def value (o : Options) : Criterion → String
  | types => joined o.types
  | domains => joined (o.domains.map Domain.name)
  | statuses => joined (o.statuses.map Status.name)
  | priorities => joined (o.priorities.map Priority.name)
  | dependsOn => joined o.dependsOn
  | enables => joined o.enables
  | relatedTo => joined o.relatedTo
  | conflictsWith => joined o.conflictsWith
  | createdAfter => o.createdAfter.getD ""
  | createdBefore => o.createdBefore.getD ""
  | updatedAfter => o.updatedAfter.getD ""
  | updatedBefore => o.updatedBefore.getD ""
  | owner => o.owner.getD ""
  | stakeholders => joined o.stakeholders
  | reviewers => joined o.reviewers
  | hasSuccessCriteria => (o.hasSuccessCriteria.map truthText).getD ""
  | hasRisks => (o.hasRisks.map truthText).getD ""
  | hasMetrics => (o.hasMetrics.map truthText).getD ""
  | textSearch => o.textSearch.getD ""

end Criterion

namespace Options

/-- Whether options ask for a criterion. Empty lists and an empty text ask for nothing. -/
def asksFor (o : Options) : Criterion → Bool
  | .types => !o.types.isEmpty
  | .domains => !o.domains.isEmpty
  | .statuses => !o.statuses.isEmpty
  | .priorities => !o.priorities.isEmpty
  | .dependsOn => !o.dependsOn.isEmpty
  | .enables => !o.enables.isEmpty
  | .relatedTo => !o.relatedTo.isEmpty
  | .conflictsWith => !o.conflictsWith.isEmpty
  | .createdAfter => o.createdAfter.isSome
  | .createdBefore => o.createdBefore.isSome
  | .updatedAfter => o.updatedAfter.isSome
  | .updatedBefore => o.updatedBefore.isSome
  | .owner => o.owner.isSome
  | .stakeholders => !o.stakeholders.isEmpty
  | .reviewers => !o.reviewers.isEmpty
  | .hasSuccessCriteria => o.hasSuccessCriteria.isSome
  | .hasRisks => o.hasRisks.isSome
  | .hasMetrics => o.hasMetrics.isSome
  | .textSearch => o.textSearch.any (· != "")

/-- The options that ask for no other criteria than those kept, and as before in all else. -/
def keeping (o : Options) (kept : Criterion → Bool) : Options :=
  { o with
    types := if kept .types then o.types else []
    domains := if kept .domains then o.domains else []
    statuses := if kept .statuses then o.statuses else []
    priorities := if kept .priorities then o.priorities else []
    dependsOn := if kept .dependsOn then o.dependsOn else []
    enables := if kept .enables then o.enables else []
    relatedTo := if kept .relatedTo then o.relatedTo else []
    conflictsWith := if kept .conflictsWith then o.conflictsWith else []
    createdAfter := if kept .createdAfter then o.createdAfter else none
    createdBefore := if kept .createdBefore then o.createdBefore else none
    updatedAfter := if kept .updatedAfter then o.updatedAfter else none
    updatedBefore := if kept .updatedBefore then o.updatedBefore else none
    owner := if kept .owner then o.owner else none
    stakeholders := if kept .stakeholders then o.stakeholders else []
    reviewers := if kept .reviewers then o.reviewers else []
    hasSuccessCriteria := if kept .hasSuccessCriteria then o.hasSuccessCriteria else none
    hasRisks := if kept .hasRisks then o.hasRisks else none
    hasMetrics := if kept .hasMetrics then o.hasMetrics else none
    textSearch := if kept .textSearch then o.textSearch else none }

/-- The options that ask for one criterion only. -/
def only (o : Options) (k : Criterion) : Options := o.keeping (· == k)

end Options

variable {taxonomy : Taxonomy} {o : Options} {k : Criterion}

/-! ## Filters of criteria -/

/-- The filter that a criterion sets. -/
def Criterion.filter (taxonomy : Taxonomy) (o : Options) (k : Criterion) : Filter :=
  ⟨k.name, k.value o, fun doc => k.Holds taxonomy o doc⟩

/-- Every criterion is listed. -/
theorem Criterion.mem_all (k : Criterion) : k ∈ all := by
  cases k <;> decide

/-- A term stands somewhere in a text if it is a part of it. -/
theorem contains_iff (hay needle : String) :
    Text.contains hay needle = true ↔ needle.toList <:+: hay.toList := by
  rw [Text.contains]
  induction hay.toList with
  | nil => simp [Text.occursIn, List.isEmpty_iff]
  | cons c cs ih =>
    rw [Text.occursIn, Bool.or_eq_true, ih, List.isPrefixOf_iff_prefix, List.infix_cons_iff]

/-- A document holds a text in a field if a text of the document there has it for a part, both in
lower case. -/
theorem holds_of_iff {doc : Document} {field : SearchField} {term : String} :
    (SearchText.of doc).holds field (Text.lower term) = true ↔
      ∃ text ∈ Criterion.textsIn doc field,
      (Text.lower term).toList <:+: (Text.lower text).toList := by
  cases field <;> simp [SearchText.of, SearchText.holds, Criterion.textsIn, contains_iff]

/-- A criterion with a list of wanted values sets its filter if the list is not empty. -/
theorem listFilter_eq {α : Type} {wanted : List α} {text : α → String} {keeps : Document → Bool}
    (hasks : o.asksFor k = !wanted.isEmpty) (hvalue : k.value o = joined (wanted.map text))
    (hkeeps : ∀ doc, keeps doc = true ↔ k.Holds taxonomy o doc) :
    listFilter k.name wanted text keeps = if o.asksFor k then [k.filter taxonomy o] else [] := by
  have heq : keeps = fun doc => decide (k.Holds taxonomy o doc) :=
    funext fun doc => Bool.eq_iff_iff.2 ((hkeeps doc).trans decide_eq_true_iff.symm)
  rw [listFilter, Criterion.filter, hasks, hvalue, heq]
  cases wanted <;> rfl

/-- A criterion with one wanted value sets its filter if there is one. -/
theorem valueFilter_eq {α : Type} {wanted : Option α} {text : α → String}
    {keeps : α → Document → Bool} (hasks : o.asksFor k = wanted.isSome)
    (hvalue : ∀ a ∈ wanted, k.value o = text a)
    (hkeeps : ∀ a ∈ wanted, ∀ doc, keeps a doc = true ↔ k.Holds taxonomy o doc) :
    valueFilter k.name wanted text keeps = if o.asksFor k then [k.filter taxonomy o] else [] := by
  cases wanted with
  | none => rw [hasks]; rfl
  | some a =>
    have heq : keeps a = fun doc => decide (k.Holds taxonomy o doc) :=
      funext fun doc => Bool.eq_iff_iff.2 ((hkeeps a rfl doc).trans decide_eq_true_iff.symm)
    rw [valueFilter, Criterion.filter, hasks, hvalue a rfl, heq]
    rfl

/-- What is wanted is had if it is the same. -/
theorem beq_iff_of_mem {α : Type} [BEq α] [LawfulBEq α] {wanted : Option α} {a had : α}
    (h : a ∈ wanted) : (had == a) = true ↔ wanted = some had := by
  rw [Option.mem_def.1 h, beq_iff_eq, Option.some_inj, eq_comm]

/-- What is wanted to be so is not the contrary. -/
theorem not_beq_iff_of_mem {wanted : Option Bool} {a lacks : Bool} (h : a ∈ wanted) :
    (!(lacks == a)) = true ↔ wanted = some !lacks := by
  rw [Option.mem_def.1 h, Option.some_inj]
  cases lacks <;> cases a <;> decide

/-- The text searched for is the one given, which is not empty. -/
theorem mem_searchTerm? {term : String} (h : term ∈ o.searchTerm?) : o.textSearch = some term :=
  (Option.filter_eq_some_iff.1 h).1

/-- Whether two lists share an id. -/
theorem intersects_iff {ids wanted : List String} :
    intersects ids wanted = true ↔ ∃ id ∈ ids, id ∈ wanted := by
  simp [intersects]

/-- The filters that are set are those of the criteria that are asked for, in their order. -/
theorem filters_eq_flatMap (o : Options) (taxonomy : Taxonomy) : o.filters taxonomy =
    Criterion.all.flatMap fun k => if o.asksFor k then [k.filter taxonomy o] else [] := by
  simp only [Criterion.all, List.flatMap_cons, List.flatMap_nil, List.append_nil,
    ← List.append_assoc]
  unfold Options.filters
  repeat' refine congrArg₂ HAppend.hAppend ?_ ?_
  · exact listFilter_eq (k := .types) rfl (by simp [Criterion.value]) (by simp [Criterion.Holds])
  · exact listFilter_eq (k := .domains) rfl (by simp [Criterion.value]) (by simp [Criterion.Holds])
  · exact listFilter_eq (k := .statuses) rfl (by simp [Criterion.value])
      (by simp [Criterion.Holds])
  · exact listFilter_eq (k := .priorities) rfl (by simp [Criterion.value])
      (by simp [Criterion.Holds, Option.any_eq_true])
  · exact listFilter_eq (k := .dependsOn) rfl (by simp [Criterion.value]) fun _ => intersects_iff
  · exact listFilter_eq (k := .enables) rfl (by simp [Criterion.value]) fun _ => intersects_iff
  · exact listFilter_eq (k := .relatedTo) rfl (by simp [Criterion.value]) fun _ => intersects_iff
  · exact listFilter_eq (k := .conflictsWith) rfl (by simp [Criterion.value]) fun _ =>
      intersects_iff
  · exact valueFilter_eq (k := .createdAfter) rfl (by simp +contextual [Criterion.value])
      (by simp +contextual [Criterion.Holds])
  · exact valueFilter_eq (k := .createdBefore) rfl (by simp +contextual [Criterion.value])
      (by simp +contextual [Criterion.Holds])
  · exact valueFilter_eq (k := .updatedAfter) rfl (by simp +contextual [Criterion.value])
      (by simp +contextual [Criterion.Holds])
  · exact valueFilter_eq (k := .updatedBefore) rfl (by simp +contextual [Criterion.value])
      (by simp +contextual [Criterion.Holds])
  · exact valueFilter_eq (k := .owner) rfl (by simp +contextual [Criterion.value])
      fun _ h _ => beq_iff_of_mem h
  · exact listFilter_eq (k := .stakeholders) rfl (by simp [Criterion.value]) fun _ =>
      intersects_iff
  · exact listFilter_eq (k := .reviewers) rfl (by simp [Criterion.value]) fun _ => intersects_iff
  · exact valueFilter_eq (k := .hasSuccessCriteria) rfl (by simp +contextual [Criterion.value])
      fun _ h _ => beq_iff_of_mem h
  · exact valueFilter_eq (k := .hasRisks) rfl (by simp +contextual [Criterion.value])
      fun _ h _ => not_beq_iff_of_mem h
  · exact valueFilter_eq (k := .hasMetrics) rfl (by simp +contextual [Criterion.value])
      fun _ h _ => not_beq_iff_of_mem h
  · refine valueFilter_eq (k := .textSearch) ?_ ?_ ?_
    · rw [Options.asksFor, Options.searchTerm?, Option.isSome_filter]
    · intro term hterm
      simp [Criterion.value, (mem_searchTerm? hterm)]
    · intro term hterm doc
      simp [Criterion.Holds, mem_searchTerm? hterm, containsText, holds_of_iff,
        Options.fieldsSearched, SearchField.all]

/-- Options that keep some criteria ask for those of them that were asked for. -/
theorem asksFor_keeping (o : Options) (kept : Criterion → Bool) (k : Criterion) :
    (o.keeping kept).asksFor k = (o.asksFor k && kept k) := by
  cases hk : kept k <;> cases k <;> simp [Options.asksFor, Options.keeping, hk]

/-- A criterion that is kept has the rule that it had. -/
theorem holds_keeping {kept : Criterion → Bool} {doc : Document} (hk : kept k = true) :
    k.Holds taxonomy (o.keeping kept) doc ↔ k.Holds taxonomy o doc := by
  cases k <;> simp [Criterion.Holds, Options.keeping, hk]

/-! ## What is found -/

/-- What is found obeys the rules of all criteria that are asked for. -/
theorem found_eq_filter (r : Registry) (o : Options) : found r o =
    r.documents.filter fun doc => ∀ k ∈ Criterion.all, o.asksFor k → k.Holds r.taxonomy o doc := by
  rw [found_eq_matching, o.matching_eq_filter, filters_eq_flatMap]
  refine List.filter_congr fun doc _ => ?_
  rw [Bool.eq_iff_iff, List.all_flatMap, List.all_eq_true, decide_eq_true_iff]
  refine forall₂_congr fun k _ => ?_
  cases o.asksFor k <;> simp [Criterion.filter]

/-- With some of the criteria kept, what is found obeys the rules of those that are asked for. -/
theorem found_keeping (r : Registry) (o : Options) (kept : Criterion → Bool) :
    found r (o.keeping kept) = r.documents.filter fun doc =>
      ∀ k ∈ Criterion.all, o.asksFor k → kept k → k.Holds r.taxonomy o doc := by
  rw [found_eq_filter]
  refine List.filter_congr fun doc _ => ?_
  rw [Bool.eq_iff_iff, decide_eq_true_iff, decide_eq_true_iff]
  refine forall₂_congr fun k _ => ?_
  rw [asksFor_keeping, Bool.and_eq_true, and_imp]
  exact forall₂_congr fun _ hk => holds_keeping hk

/-- What one criterion finds that is asked for are the documents that obey its rule. -/
theorem found_only (r : Registry) (hasks : o.asksFor k = true) :
    found r (o.only k) = r.documents.filter fun doc => k.Holds r.taxonomy o doc := by
  rw [Options.only, found_keeping]
  refine List.filter_congr fun doc _ => ?_
  rw [Bool.eq_iff_iff, decide_eq_true_iff, decide_eq_true_iff]
  constructor
  · exact fun hall => hall k k.mem_all hasks (beq_self_eq_true k)
  · intro hholds l _ _ hl
    rwa [beq_iff_eq.1 hl]

/-- A criterion that is asked for keeps the documents that obey its rule among those that the
others find. -/
theorem found_eq_filter_keeping (r : Registry) (hasks : o.asksFor k = true) :
    found r o = (found r (o.keeping (· != k))).filter fun doc => k.Holds r.taxonomy o doc := by
  rw [found_keeping, found_eq_filter, List.filter_filter]
  refine List.filter_congr fun doc _ => ?_
  rw [Bool.eq_iff_iff, Bool.and_eq_true, decide_eq_true_iff, decide_eq_true_iff,
    decide_eq_true_iff]
  constructor
  · exact fun hall => ⟨hall k k.mem_all hasks, fun l hl hl' _ => hall l hl hl'⟩
  · rintro ⟨hholds, hothers⟩ l hl hl'
    by_cases heq : l = k
    · rwa [heq]
    · exact hothers l hl hl' (bne_iff_ne.2 heq)

/-! ## The conjunction -/

/-- A query that asks for several criteria asks for all of them at once. -/
structure IsConjunction (r : Registry) (o : Options) : Prop where
  /-- Alone, a criterion finds the documents that obey its rule. -/
  single : ∀ k, o.asksFor k → found r (o.only k) =
    r.documents.filter fun doc => k.Holds r.taxonomy o doc
  /-- Together, they find the documents that obey all rules, -/
  together : found r o =
    r.documents.filter fun doc => ∀ k ∈ Criterion.all, o.asksFor k → k.Holds r.taxonomy o doc
  /-- which are those that each of them finds alone. -/
  mem_iff : ∀ doc, doc ∈ found r o ↔ doc ∈ r.documents ∧ ∀ k, o.asksFor k →
    doc ∈ found r (o.only k)
  /-- One that is added to others loses documents and finds no new ones. -/
  narrows : ∀ kept, (found r o).Sublist (found r (o.keeping kept))
  /-- The filters that are listed are those that are asked for, in their order, -/
  listed : ∀ milliseconds, (run r o milliseconds).filters =
    (Criterion.all.filter o.asksFor).map fun k => ⟨k.name, k.value o⟩
  /-- each of them once. -/
  once : ∀ milliseconds, ((run r o milliseconds).filters.map (·.name)).Nodup
  /-- The documents found are counted, whichever of them are shown. -/
  total : ∀ milliseconds, (run r o milliseconds).total = (found r o).length

/-- The filters of an answer are those of the criteria asked for. -/
theorem filters_run (r : Registry) (o : Options) (milliseconds : Nat) :
    (run r o milliseconds).filters =
      (Criterion.all.filter o.asksFor).map fun k => ⟨k.name, k.value o⟩ := by
  rw [filters_run_eq, filters_eq_flatMap]
  induction Criterion.all with
  | nil => rfl
  | cons k rest ih =>
    rw [List.flatMap_cons, List.map_append, ih, List.filter_cons]
    cases o.asksFor k <;> rfl

/-- **A query is the conjunction of its criteria.** Whichever of the nineteen are asked for,
however the documents are sorted and paged, and however long it takes, each criterion narrows the
query by its own rule and by nothing else. -/
theorem conjunction_run (r : Registry) (o : Options) : IsConjunction r o := by
  constructor
  case single => exact fun k hasks => found_only r hasks
  case together => exact found_eq_filter r o
  case mem_iff =>
    intro doc
    rw [found_eq_filter, List.mem_filter, decide_eq_true_iff]
    refine and_congr_right fun hdoc => ?_
    constructor
    · intro hall k hasks
      rw [found_only r hasks]
      exact List.mem_filter.2 ⟨hdoc, decide_eq_true (hall k k.mem_all hasks)⟩
    · intro hall k _ hasks
      have hmem := hall k hasks
      rw [found_only r hasks] at hmem
      exact of_decide_eq_true (List.mem_filter.1 hmem).2
  case narrows =>
    intro kept
    rw [found_keeping, found_eq_filter]
    refine List.monotone_filter_right _ fun doc hpass => ?_
    have hall := of_decide_eq_true hpass
    exact decide_eq_true fun k hk hasks _ => hall k hk hasks
  case listed => exact filters_run r o
  case once =>
    intro milliseconds
    have hnames : (Criterion.all.map Criterion.name).Nodup := by decide
    rw [filters_run, List.map_map]
    exact hnames.sublist (List.filter_sublist.map _)
  case total => exact total_run_eq_length_found r o

end Dossier.Query

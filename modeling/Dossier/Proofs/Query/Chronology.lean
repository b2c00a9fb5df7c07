import Dossier.Proofs.Calendar.Date
import Dossier.Proofs.Frontmatter.Document
import Dossier.Proofs.Query.Criterion
import Dossier.Proofs.Query.Page
import Dossier.Proofs.Query.Statistics

/-!
# Dates in queries and statistics

Queries and statistics compare dates as texts. For documents that are read from texts, and whose
dates lie in the years 0 to 9999, this is chronological if and only if all dates have the form
`YYYY-MM-DD` (`isChronological_iff_isPadded`). Reading does not ask for that form, so there are
documents whose dates are not treated chronologically (`not_isChronological_singleDigit`).
-/

namespace Dossier

/-- Some text is read as the document. -/
def Document.IsRead (doc : Document) : Prop :=
  ∃ taxonomy source text, Frontmatter.readDocument taxonomy source text = .ok doc

namespace Query

/-! ## The dates of a document -/

/-- A date that every document has. -/
inductive DateField where
  | created
  | updated
  deriving DecidableEq, Repr

namespace DateField

/-- The text of a date. -/
def get (doc : Document) : DateField → String
  | created => doc.created
  | updated => doc.updated

/-- The sort key that is a date. -/
def sortField : DateField → SortField
  | created => .created
  | updated => .updated

/-- The criterion that sets a first day. -/
def since : DateField → Criterion
  | created => .createdAfter
  | updated => .updatedAfter

/-- The criterion that sets a last day. -/
def upTo : DateField → Criterion
  | created => .createdBefore
  | updated => .updatedBefore

end DateField

namespace Options

/-- The options with a first day for a date, or without one. -/
def since (o : Options) (f : DateField) (bound : Option String) : Options :=
  match f with
  | .created => { o with createdAfter := bound }
  | .updated => { o with updatedAfter := bound }

/-- The options with a last day for a date, or without one. -/
def upTo (o : Options) (f : DateField) (bound : Option String) : Options :=
  match f with
  | .created => { o with createdBefore := bound }
  | .updated => { o with updatedBefore := bound }

end Options

/-- Whether a document may stand before another in time. -/
def SortOrder.FollowsInTime (order : SortOrder) (f : DateField) (a b : Document) : Prop :=
  match order with
  | .ascending => Date.isNotAfter (f.get a) (f.get b) = true
  | .descending => Date.isNotAfter (f.get b) (f.get a) = true

/-- A registry whose queries and statistics treat dates as days of the calendar. -/
structure IsChronological (r : Registry) : Prop where
  /-- A first day keeps the documents whose date is not before it. -/
  since : ∀ (o : Options) (f : DateField) (bound : String), Date.isPadded bound →
    (Date.read? bound).isSome →
    found r (o.since f (some bound)) =
      (found r (o.since f none)).filter fun doc => Date.isNotAfter bound (f.get doc)
  /-- A last day keeps the documents whose date is not after it. -/
  upTo : ∀ (o : Options) (f : DateField) (bound : String), Date.isPadded bound →
    (Date.read? bound).isSome →
    found r (o.upTo f (some bound)) =
      (found r (o.upTo f none)).filter fun doc => Date.isNotAfter (f.get doc) bound
  /-- Matches that are sorted by a date are in the order of the days. -/
  sorted : ∀ (o : Options) (f : DateField) (sortOrder : SortOrder),
    IsStablySorted (sortOrder.FollowsInTime f) (o.matching r.taxonomy r.documents)
      (whole r { o with sortBy := some f.sortField, sortOrder, includeContent := true })
  /-- The oldest date is that of a document, and no document was created before it. -/
  oldest : ∀ today, r.documents ≠ [] → ∃ first ∈ r.documents,
    (statistics r today).oldest = some first.created ∧
      ∀ doc ∈ r.documents, Date.isNotAfter first.created doc.created
  /-- The newest date is that of a document, and no document was created after it. -/
  newest : ∀ today, r.documents ≠ [] → ∃ last ∈ r.documents,
    (statistics r today).newest = some last.created ∧
      ∀ doc ∈ r.documents, Date.isNotAfter doc.created last.created

variable {r : Registry} {o : Options} {f : DateField} {bound : String} {doc : Document}

/-- The dates of a document that is read are days of the calendar. -/
theorem isSome_read?_of_isRead (h : doc.IsRead) (f : DateField) :
    (Date.read? (f.get doc)).isSome = true := by
  obtain ⟨_, _, _, h⟩ := h
  obtain ⟨hcreated, hupdated⟩ := Frontmatter.isSome_dates_of_readDocument h
  cases f with
  | created => exact hcreated
  | updated => exact hupdated

/-! ## What is compared -/

/-- A first day keeps the documents whose date is no lesser text. -/
theorem found_since (r : Registry) (o : Options) (f : DateField) (bound : String) :
    found r (o.since f (some bound)) = (found r (o.since f none)).filter fun doc => bound ≤
      f.get doc := by
  have hasks : (o.since f (some bound)).asksFor f.since = true := by cases f <;> rfl
  have hothers : (o.since f (some bound)).keeping (· != f.since) = o.since f none := by
    cases f <;> rfl
  have hholds (doc : Document) :
      f.since.Holds r.taxonomy (o.since f (some bound)) doc ↔ bound ≤ f.get doc := by
    cases f <;> simp [Options.since, DateField.since, DateField.get, Criterion.Holds]
  rw [found_eq_filter_keeping r hasks, hothers]
  simp only [hholds]

/-- A last day keeps the documents whose date is no greater text. -/
theorem found_upTo (r : Registry) (o : Options) (f : DateField) (bound : String) :
    found r (o.upTo f (some bound)) = (found r (o.upTo f none)).filter fun doc => f.get doc ≤
      bound := by
  have hasks : (o.upTo f (some bound)).asksFor f.upTo = true := by cases f <;> rfl
  have hothers : (o.upTo f (some bound)).keeping (· != f.upTo) = o.upTo f none := by
    cases f <;> rfl
  have hholds (doc : Document) :
      f.upTo.Holds r.taxonomy (o.upTo f (some bound)) doc ↔ f.get doc ≤ bound := by
    cases f <;> simp [Options.upTo, DateField.upTo, DateField.get, Criterion.Holds]
  rw [found_eq_filter_keeping r hasks, hothers]
  simp only [hholds]

/-- What a query finds are documents of the registry. -/
theorem mem_documents_of_mem_found (h : doc ∈ found r o) : doc ∈ r.documents := by
  rw [found_eq_filter] at h
  exact (List.mem_filter.1 h).1

/-- Sorting by a date compares its texts. -/
theorem atMost_sortField (f : DateField) {a b : Document} : f.sortField.AtMost a b ↔
    f.get a ≤ f.get b := by
  cases f <;> exact Iff.rfl

/-- The oldest date is that of a document, and is no greater a text than any other. -/
theorem exists_oldest (hne : r.documents ≠ []) (today : Date) : ∃ first ∈ r.documents,
    (statistics r today).oldest = some first.created ∧
    ∀ doc ∈ r.documents, first.created ≤ doc.created := by
  have hdates : r.documents.map (·.created) ≠ [] := List.map_eq_nil_iff.not.2 hne
  obtain ⟨s, hs, hfirst⟩ := exists_least? hdates
  obtain ⟨first, hmem, rfl⟩ := List.mem_map.1 hfirst.mem
  exact ⟨first, hmem, hs, fun doc hdoc => not_lt.1
    (hfirst.none_before _ (List.mem_map_of_mem hdoc))⟩

/-- The newest date is that of a document, and is no lesser a text than any other. -/
theorem exists_newest (hne : r.documents ≠ []) (today : Date) : ∃ last ∈ r.documents,
    (statistics r today).newest = some last.created ∧
    ∀ doc ∈ r.documents, doc.created ≤ last.created := by
  have hdates : r.documents.map (·.created) ≠ [] := List.map_eq_nil_iff.not.2 hne
  obtain ⟨s, hs, hfirst⟩ := exists_greatest? hdates
  obtain ⟨last, hmem, rfl⟩ := List.mem_map.1 hfirst.mem
  exact ⟨last, hmem, hs, fun doc hdoc => not_lt.1
    (hfirst.none_before _ (List.mem_map_of_mem hdoc))⟩

/-! ## Padded dates -/

/-- Where all dates have the form `YYYY-MM-DD`, dates are treated chronologically. -/
theorem isChronological_of_isPadded (hread : ∀ doc ∈ r.documents, doc.IsRead)
    (hpadded : ∀ doc ∈ r.documents, ∀ f : DateField, Date.isPadded (f.get doc)) :
    IsChronological r := by
  have hdays {doc : Document} (hdoc : doc ∈ r.documents) (f : DateField) :=
    isSome_read?_of_isRead (hread doc hdoc) f
  have hbetween {a b : Document} (ha : a ∈ r.documents) (hb : b ∈ r.documents) (f : DateField) :
      Date.isNotAfter (f.get a) (f.get b) = true ↔ f.get a ≤ f.get b :=
    Date.isNotAfter_iff_le (hpadded a ha f) (hpadded b hb f) (hdays ha f) (hdays hb f)
  constructor
  case since =>
    intro o f bound hbound hday
    rw [found_since]
    refine List.filter_congr fun doc hdoc => ?_
    have hmem := mem_documents_of_mem_found hdoc
    have hle := Date.isNotAfter_iff_le hbound (hpadded doc hmem f) hday (hdays hmem f)
    rw [Bool.eq_iff_iff, decide_eq_true_iff, hle]
  case upTo =>
    intro o f bound hbound hday
    rw [found_upTo]
    refine List.filter_congr fun doc hdoc => ?_
    have hmem := mem_documents_of_mem_found hdoc
    have hle := Date.isNotAfter_iff_le (hpadded doc hmem f) hbound (hdays hmem f) hday
    rw [Bool.eq_iff_iff, decide_eq_true_iff, hle]
  case sorted =>
    intro o f sortOrder
    refine (isStablySorted_whole r o f.sortField sortOrder).congr fun a ha b hb => ?_
    rw [← found_eq_matching] at ha hb
    have ha := mem_documents_of_mem_found ha
    have hb := mem_documents_of_mem_found hb
    cases sortOrder with
    | ascending => exact (atMost_sortField f).trans (hbetween ha hb f).symm
    | descending => exact (atMost_sortField f).trans (hbetween hb ha f).symm
  case oldest =>
    intro today hne
    obtain ⟨first, hfirst, holdest, hleast⟩ := exists_oldest hne today
    exact ⟨first, hfirst, holdest, fun doc hdoc =>
      (hbetween hfirst hdoc .created).2 (hleast doc hdoc)⟩
  case newest =>
    intro today hne
    obtain ⟨last, hlast, hnewest, hgreatest⟩ := exists_newest hne today
    exact ⟨last, hlast, hnewest, fun doc hdoc =>
      (hbetween hdoc hlast .created).2 (hgreatest doc hdoc)⟩

/-- A query that asks for nothing finds all documents. -/
theorem found_default (r : Registry) : found r {} = r.documents := by
  have hfilters : ({} : Options).filters r.taxonomy = [] := Options.filters_unset none none _ _ _ _
  rw [found_eq_matching, Options.matching, hfilters]
  rfl

/-- Where dates are treated chronologically, a date of the years 0 to 9999 has the form
`YYYY-MM-DD`. -/
theorem isPadded_of_isChronological {day : Date} (h : IsChronological r) (hdoc : doc ∈ r.documents)
    (hday : Date.read? (f.get doc) = some day) (hyear : 0 ≤ day.year ∧ day.year ≤ 9999) :
    Date.isPadded (f.get doc) = true := by
  have hpadded : Date.isPadded day.text = true := Date.isPadded_iff.2 ⟨_, _, _, day.isWritten_text⟩
  have htext : Date.read? day.text = some day := Date.read?_text hyear
  have hsome : (Date.read? day.text).isSome = true := by rw [htext]; rfl
  have hsince : ({} : Options).since f none = {} := by cases f <;> rfl
  have hupTo : ({} : Options).upTo f none = {} := by cases f <;> rfl
  -- from that day on and up to it the document is found, so its text is that of the day
  have hleast : doc ∈ found r (({} : Options).since f (some day.text)) := by
    rw [h.since _ _ _ hpadded hsome, hsince, found_default]
    exact List.mem_filter.2 ⟨hdoc, Date.isNotAfter_of_eq htext hday⟩
  have hgreatest : doc ∈ found r (({} : Options).upTo f (some day.text)) := by
    rw [h.upTo _ _ _ hpadded hsome, hupTo, found_default]
    exact List.mem_filter.2 ⟨hdoc, Date.isNotAfter_of_eq hday htext⟩
  rw [found_since, List.mem_filter, decide_eq_true_iff] at hleast
  rw [found_upTo, List.mem_filter, decide_eq_true_iff] at hgreatest
  rw [le_antisymm hgreatest.2 hleast.2]
  exact hpadded

/-! ## Missions -/

/-- The canonical taxonomy with missions for its only type. -/
def missionsOnly : Taxonomy := { Taxonomy.canonical with knownTypes := ["MSN"] }

/-- The text of a mission with given dates. -/
def missionText (created updated : String) : String :=
  "---\nid: MSN-a\ntitle: A\ntype: MSN\nstatus: Draft\nversion: 1.0.0\nowner: staff\ncreated: " ++
    created ++
    "\nupdated: " ++ updated ++ "\n---\n"

/-- The mission that is read from a text with given dates. -/
def mission? (created updated : String) : Option Document :=
  (Frontmatter.readDocument missionsOnly "mission.md" (missionText created updated)).toOption

/-- A mission is read where the canonical types are known. -/
theorem readDocument_of_mission? {created updated : String}
    (h : mission? created updated = some doc) :
    Frontmatter.readDocument .canonical "mission.md" (missionText created updated) = .ok doc := by
  have hcanonical : Taxonomy.canonical.isKnownType "MSN" = true :=
    List.contains_iff_mem.2 (Taxonomy.mem_inOrder.2 (by decide))
  have hread : Frontmatter.readDocument missionsOnly "mission.md" (missionText created updated) =
      .ok doc := by
    unfold mission? at h
    cases hresult : Frontmatter.readDocument
      missionsOnly "mission.md" (missionText created updated) with
    | error e =>
      rw [hresult] at h
      cases h
    | ok read =>
      rw [hresult] at h
      cases h
      rfl
  refine Frontmatter.readDocument_mono (fun code hcode => ?_) hread
  rw [List.mem_singleton.1 (List.contains_iff_mem.1 hcode), hcanonical]

/-- The missions that are read from texts with given dates. -/
def missions (dates : List (String × String)) : Registry where
  collection := .ofList (dates.filterMap fun (created, updated) => mission? created updated)
  taxonomy := .canonical

/-- Missions are read. -/
theorem isRead_of_mem_missions {dates : List (String × String)}
    (h : doc ∈ (missions dates).documents) : doc.IsRead := by
  obtain ⟨⟨created, updated⟩, -, hmission⟩ := List.mem_filterMap.1 h
  exact ⟨.canonical, "mission.md", missionText created updated, readDocument_of_mission? hmission⟩

/-! ## The form of dates -/

/-- **Dates are treated chronologically, and lie in the years 0 to 9999, if and only if they have
the form `YYYY-MM-DD`.** This is so for any collection of documents that are read. -/
theorem isChronological_iff_isPadded (r : Registry) (hread : ∀ doc ∈ r.documents, doc.IsRead) :
    (IsChronological r ∧ ∀ doc ∈ r.documents, ∀ f : DateField, ∀ day ∈ Date.read? (f.get doc),
      0 ≤ day.year ∧ day.year ≤ 9999) ↔
        ∀ doc ∈ r.documents, ∀ f : DateField, Date.isPadded (f.get doc) = true := by
  constructor
  · rintro ⟨h, hyears⟩ doc hdoc f
    obtain ⟨day, hday⟩ := Option.isSome_iff_exists.1 (isSome_read?_of_isRead (hread doc hdoc) f)
    exact isPadded_of_isChronological h hdoc hday (hyears doc hdoc f day hday)
  · intro hpadded
    refine ⟨isChronological_of_isPadded hread hpadded, fun doc hdoc f day hday => ?_⟩
    exact Date.year_of_isPadded (hpadded doc hdoc f) hday

/-- Two missions with padded dates, the newer one first, are treated chronologically. -/
theorem isChronological_missions :
    let r := missions [("2024-10-01", "2025-01-31"), ("2024-09-05", "2024-10-01")]
    (∀ doc ∈ r.documents, doc.IsRead) ∧ r.documents.map (·.created) =
      ["2024-10-01", "2024-09-05"] ∧
      IsChronological r := by
  obtain ⟨r, hr⟩ : ∃ r, r = missions
    [("2024-10-01", "2025-01-31"), ("2024-09-05", "2024-10-01")] := ⟨_, rfl⟩
  have hread : ∀ doc ∈ r.documents, doc.IsRead := by
    intro doc hdoc
    rw [hr] at hdoc
    exact isRead_of_mem_missions hdoc
  have hdates : r.documents.map (·.created) = ["2024-10-01", "2024-09-05"] ∧
      ∀ doc ∈ r.documents, Date.isPadded doc.created = true ∧
      Date.isPadded doc.updated = true := by
    rw [hr]
    decide +kernel
  rw [← hr]
  have hchronological := (isChronological_iff_isPadded r hread).2 fun doc hdoc f => by
    cases f with
    | created => exact (hdates.2 doc hdoc).1
    | updated => exact (hdates.2 doc hdoc).2
  exact ⟨hread, hdates.1, hchronological.1⟩

/-- **Not all dates that are read are treated chronologically.** A mission that was created on
2024-9-05 is read, and a query for what was created up to 2024-10-01 does not find it. -/
theorem not_isChronological_singleDigit :
    ∃ doc, Frontmatter.readDocument
      .canonical "mission.md" (missionText "2024-9-05" "2024-10-01") = .ok doc ∧
      let r : Registry := { collection := .ofList [doc], taxonomy := .canonical }
      Date.isNotAfter doc.created "2024-10-01" = true ∧
        found r { createdBefore := some "2024-10-01" } = [] ∧ ¬ IsChronological r := by
  have hmap : (mission? "2024-9-05" "2024-10-01").map (·.created) = some "2024-9-05" := by
    decide +kernel
  obtain ⟨doc, hmission, hcreated⟩ := Option.map_eq_some_iff.1 hmap
  refine ⟨doc, readDocument_of_mission? hmission, ?_, ?_, fun h => ?_⟩
  · rw [hcreated]
    decide +kernel
  · have hnot : ¬doc.created ≤ "2024-10-01" := by
      rw [hcreated]
      decide
    have hfound :=
      found_upTo { collection := .ofList [doc], taxonomy := .canonical } {} .created "2024-10-01"
    refine hfound.trans (List.filter_eq_nil_iff.2 fun other hother => ?_)
    obtain rfl : other = doc := List.mem_singleton.1 (mem_documents_of_mem_found hother)
    exact decide_eq_true_iff.not.2 hnot
  · have hday : Date.read? doc.created = some ⟨2024, 9, 5, by decide, by decide⟩ := by
      rw [hcreated]
      decide +kernel
    have hpadded : Date.isPadded doc.created = true :=
      isPadded_of_isChronological (f := .created) h (.head _) hday (by decide)
    rw [hcreated] at hpadded
    exact absurd hpadded (by decide)

end Query

end Dossier

import Dossier.Proofs.Query.Criterion
import Dossier.Proofs.Text.LetterCase

/-!
# Searching a text

A query that searches a text compares lower cases, so letter case is of no account. But the lower
case of a capital sigma depends on what stands beside it, so a term may stand in a text as it is
and yet not be found there. The terms that are found wherever they stand are those whose sigmas are
settled (`found_of_occurs_iff`), among them all without a capital sigma
(`mem_found_of_sigma_not_mem`).
-/

namespace Dossier.Query

variable {r : Registry} {doc : Document} {term : String}

/-- The texts of a document that are searched where a query does not say which. -/
def searchedTexts (doc : Document) : List String := doc.title :: doc.content :: doc.id :: doc.tags

/-- The query that asks for a text and nothing else. -/
def searchFor (term : String) : Options := { textSearch := some term }

/-- A text that is searched for sets one filter, unless it is empty. -/
theorem filters_searchFor (taxonomy : Taxonomy) (term : String) :
    (searchFor term).filters taxonomy =
    if term = "" then [] else [⟨"text search", term, containsText SearchField.all term⟩] := by
  have hterm : (searchFor term).searchTerm? = if term = "" then none else some term := by
    by_cases h : term = "" <;> simp [searchFor, Options.searchTerm?, Option.filter, h]
  unfold Options.filters
  rw [hterm]
  by_cases h : term = "" <;> simp [searchFor, listFilter, valueFilter, Options.fieldsSearched, h]

/-- A term is contained in a document if its lower case is a part of that of a text of the
document. -/
theorem containsText_all_iff : containsText SearchField.all term doc = true ↔
    ∃ text ∈ searchedTexts doc, (Text.lower term).toList <:+: (Text.lower text).toList := by
  simp [containsText, SearchField.all, holds_of_iff, Criterion.textsIn, searchedTexts]

/-- The query finds the documents in which the lower case of the term is a part of that of a
text. -/
theorem mem_found_searchFor : doc ∈ found r (searchFor term) ↔ doc ∈ r.documents ∧
    ∃ text ∈ searchedTexts doc, (Text.lower term).toList <:+: (Text.lower text).toList := by
  rw [found_eq_matching, Options.matching_eq_filter, List.mem_filter, filters_searchFor,
    ← containsText_all_iff]
  refine and_congr_right fun _ => ?_
  split
  case isTrue hterm =>
    subst hterm
    simp only [List.all_nil, true_iff]
    exact containsText_all_iff.2 ⟨doc.title, .head _, List.nil_infix⟩
  case isFalse => simp

/-- A term whose sigmas are settled is found wherever it stands. -/
theorem mem_found_of_settlesSigmas (h : Text.SettlesSigmas term.toList) (hdoc : doc ∈ r.documents)
    (hoccurs : ∃ text ∈ searchedTexts doc, term.toList <:+: text.toList) :
    doc ∈ found r (searchFor term) := by
  obtain ⟨text, htext, hpart⟩ := hoccurs
  refine mem_found_searchFor.2 ⟨hdoc, text, htext, ?_⟩
  rw [Text.lower, Text.lower, String.toList_ofList, String.toList_ofList]
  exact Text.settlesSigmas_iff.1 h text.toList hpart

/-- A term without a capital sigma is found wherever it stands. -/
theorem mem_found_of_sigma_not_mem (h : 'Σ' ∉ term.toList) (hdoc : doc ∈ r.documents)
    (hoccurs : ∃ text ∈ searchedTexts doc, term.toList <:+: text.toList) :
    doc ∈ found r (searchFor term) :=
  mem_found_of_settlesSigmas (Text.settlesSigmas_of_not_mem h) hdoc hoccurs

/-- **A term is found wherever it stands if, and only if, its sigmas are settled**: each capital
sigma has beside it, in the term, what says whether it ends a word. -/
theorem found_of_occurs_iff (term : String) :
    (∀ (r : Registry) (doc : Document), doc ∈ r.documents →
      (∃ text ∈ searchedTexts doc, term.toList <:+: text.toList) →
      doc ∈ found r (searchFor term)) ↔
    Text.SettlesSigmas term.toList := by
  constructor
  · intro hfound
    refine Text.settlesSigmas_iff.2 fun text hpart => ?_
    let doc : Document := { Document.named "" "" with title := String.ofList text }
    have hmem := hfound ⟨.ofList [doc], .canonical, 100, 5⟩ doc (.head _)
      ⟨doc.title, .head _, by rwa [String.toList_ofList]⟩
    obtain ⟨found, hfound, hlower⟩ := (mem_found_searchFor.1 hmem).2
    rw [Text.lower, Text.lower, String.toList_ofList, String.toList_ofList] at hlower
    rcases List.mem_cons.1 hfound with rfl | hfound
    · rwa [String.toList_ofList] at hlower
    · -- All other texts of the document are empty, and only an empty term is a part of them.
      have hempty : found = "" := by simpa [doc, Document.named] using hfound
      rw [hempty] at hlower
      rw [List.infix_nil.1 hlower]
      exact List.nil_infix
  · exact fun h r doc hdoc hoccurs => mem_found_of_settlesSigmas h hdoc hoccurs

/-- The beginning of a word is not found in it, since by itself it ends in a final sigma. -/
theorem not_found_beginning :
    let doc := { Document.named "MSN-a" "MSN" with title := "ΚΟΣΜΟΣ" }
    let r : Registry := ⟨.ofList [doc], .canonical, 100, 5⟩
    doc ∈ r.documents ∧ "ΚΟΣ" ≠ "" ∧ "ΚΟΣ".toList <:+: doc.title.toList ∧
      doc ∉ found r (searchFor "ΚΟΣ") := by
  intro doc r
  refine ⟨.head _, by decide, ⟨[], "ΜΟΣ".toList, by decide⟩, fun hmem => ?_⟩
  obtain ⟨text, htext, hlower⟩ := (mem_found_searchFor.1 hmem).2
  have hnone : ∀ text ∈ searchedTexts doc,
      ¬(Text.lower "ΚΟΣ").toList <:+: (Text.lower text).toList := by
    decide +kernel
  exact hnone text htext hlower

end Dossier.Query

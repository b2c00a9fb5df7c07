import Dossier.Calendar.Date
import Dossier.Document.Json
import Dossier.Registry
import Dossier.Share

/-!
# Statistics of a collection

Counts by type, domain and status, figures on references, and figures on age.
-/

namespace Dossier.Query

open Json

/-- Statistics of a collection. Only what occurs is counted. -/
structure Statistics where
  total : Nat
  /-- By type, in ascending order of the codes. -/
  byType : List (String × Nat)
  byDomain : List (Domain × Nat)
  /-- By status, in ascending order of the names. -/
  byStatus : List (Status × Nat)
  dependencies : Nat
  enablements : Nat
  conflicts : Nat
  oldest : Option String
  newest : Option String
  /-- The ages in days of the documents whose date of creation is a date. -/
  ages : List Int
  deriving DecidableEq, Repr

/-- The number of occurrences of each of `keys` in a list, those that do not occur left out. -/
def countEach {α : Type} [BEq α] (keys occurrences : List α) : List (α × Nat) :=
  (keys.map fun key => (key, occurrences.count key)).filter (·.2 != 0)

/-- The statuses in ascending order of their names. -/
def statusesByName : List Status := [.accepted, .deprecated, .draft, .review]

/-- The first string that no other string of a list comes before. -/
def least? : List String → Option String
  | [] => none
  | s :: rest => some (rest.foldl (fun m x => if x < m then x else m) s)

/-- The first string that comes before no other string of a list. -/
def greatest? : List String → Option String
  | [] => none
  | s :: rest => some (rest.foldl (fun m x => if m < x then x else m) s)

/-- The age of a document on a day. -/
def age? (today : Date) (doc : Document) : Option Int :=
  (Date.read? doc.created).map today.daysSince

/-- The statistics of a registry on a day. -/
def statistics (r : Registry) (today : Date) : Statistics :=
  let docs := r.documents
  let types := docs.map (·.type)
  { total := docs.length
    byType := countEach (Taxonomy.inOrder types) types
    byDomain := countEach Domain.all r.domains
    byStatus := countEach statusesByName (docs.map (·.status))
    dependencies := total (docs.map (·.dependsOn.length))
    enablements := total (docs.map (·.enables.length))
    conflicts := total (docs.map (·.conflictsWith.length))
    oldest := least? (docs.map (·.created))
    newest := greatest? (docs.map (·.created))
    ages := docs.filterMap (age? today) }

/-- The number of relationships of a document on average. -/
def Statistics.relationshipsPerDocument (s : Statistics) : Share :=
  ⟨s.dependencies + s.enablements + s.conflicts, s.total⟩

/-- The average age in days. -/
def Statistics.averageAge (s : Statistics) : Float :=
  if s.ages.isEmpty then 0.0 else Float.ofInt (s.ages.foldl (· + ·) 0) / Float.ofNat s.ages.length

/-- Counts as the members of an object. -/
def countMembers {α : Type} (name : α → String) (counts : List (α × Nat)) : Value :=
  .object (counts.map fun (key, n) => (name key, .int n))

/-- Statistics as an object. -/
def Statistics.toJson (s : Statistics) : Value :=
  .object
    [("totalDocuments", .int s.total), ("byType", countMembers id s.byType),
      ("byDomain", countMembers Domain.name s.byDomain),
      ("byStatus", countMembers Status.name s.byStatus),
      ("relationshipStats", .object
        [("totalDependencies", .int s.dependencies), ("totalEnablements", .int s.enablements),
          ("totalConflicts", .int s.conflicts),
          ("avgRelationshipsPerDoc", .float s.relationshipsPerDocument.toFloat)]),
      ("temporalStats", .object
        [("oldestDocument", .ofOption (s.oldest.map .string)),
          ("newestDocument", .ofOption (s.newest.map .string)),
          ("avgAgeDays", .float s.averageAge)])]

end Dossier.Query
